import LaneLift.Float.Arithmetic
import LaneLift.Lane.Datum
import LaneLift.Lane.Opcode

/-!
# Lane arithmetic

Integer lanes of every width are extended to 64 bits, combined there, and
truncated to their width again. Signed minimum and maximum compare the
sign-extensions, unsigned ones the zero-extensions. Float lanes are combined
as bit patterns of their format. An opcode that does not fit the type of its
operands has no result.
-/

namespace LaneLift.Lane

def integerUnary? (x : BitVec 64) : Opcode → Option (BitVec 64)
  | .ineg => some (-x)
  | .iabs => some x.abs
  | .bnot => some (~~~x)
  | _ => none

/-- Arithmetic on two integers, given sign-extended and zero-extended. -/
def integerBinary? (x y unsignedX unsignedY : BitVec 64) : Opcode → Option (BitVec 64)
  | .iadd => some (x + y)
  | .isub => some (x - y)
  | .imul => some (x * y)
  | .smax => some (if x.sle y then y else x)
  | .smin => some (if x.sle y then x else y)
  | .umax => some (if unsignedX.ule unsignedY then unsignedY else unsignedX)
  | .umin => some (if unsignedX.ule unsignedY then unsignedX else unsignedY)
  | .band => some (x &&& y)
  | .bor => some (x ||| y)
  | .bxor => some (x ^^^ y)
  | _ => none

section

variable [FloatArithmetic]

def floatUnary? (format : FloatFormat) (x : BitVec format.width) :
    Opcode → Option (BitVec format.width)
  | .fneg => some (format.negate x)
  | .fabs => some (format.absolute x)
  | .sqrt => some (format.squareRoot x)
  | _ => none

def floatBinary? (format : FloatFormat) (x y : BitVec format.width) :
    Opcode → Option (BitVec format.width)
  | .fadd => some (format.add x y)
  | .fsub => some (format.subtract x y)
  | .fmul => some (format.multiply x y)
  | .fdiv => some (format.divide x y)
  | _ => none

def ScalarType.unary? (opcode : Opcode) :
    (type : ScalarType) → BitVec type.width → Option (BitVec type.width)
  | .f32, x => floatUnary? .single x opcode
  | .f64, x => floatUnary? .double x opcode
  | type, x => (integerUnary? (x.signExtend 64) opcode).map (·.setWidth type.width)

def ScalarType.binary? (opcode : Opcode) :
    (type : ScalarType) → (x y : BitVec type.width) → Option (BitVec type.width)
  | .f32, x, y => floatBinary? .single x y opcode
  | .f64, x, y => floatBinary? .double x y opcode
  | type, x, y =>
      (integerBinary? (x.signExtend 64) (y.signExtend 64) (x.setWidth 64) (y.setWidth 64)
        opcode).map (·.setWidth type.width)

namespace Datum

/-- Arithmetic on one value; images have none. -/
def unary? (opcode : Opcode) : Datum → Option Datum
  | .scalar type x => (type.unary? opcode x).map (.scalar type)
  | .image _ => none

/-- Arithmetic on two values of one type; images have none. -/
def binary? (opcode : Opcode) : Datum → Datum → Option Datum
  | .scalar type x, .scalar otherType y =>
      if same : otherType = type then
        (type.binary? opcode x (same ▸ y)).map (.scalar type)
      else
        none
  | _, _ => none

end Datum

end

end LaneLift.Lane
