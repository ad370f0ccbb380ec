import LaneLift.Lane.ValueType
import LaneLift.Register.Image

/-!
# Run-time values

A value of lane code is a lane's bit pattern together with its type, or an
image. Integers are the same patterns whether read with or without a sign.
-/

namespace LaneLift.Lane

inductive Datum where
  | scalar (type : ScalarType) (pattern : BitVec type.width)
  | image (content : Image)
  deriving DecidableEq, Repr

namespace Datum

def type : Datum → ValueType
  | .scalar type _ => .scalar type
  | .image _ => .image

/-- The scalar of a type with the low bits of a pattern; images are not made
this way. -/
def ofBits? : ValueType → BitVec 64 → Option Datum
  | .scalar type, bits => some (.scalar type (bits.setWidth type.width))
  | .image, _ => none

/-- The pattern of a scalar, zero-extended. -/
def bits? : Datum → Option (BitVec 64)
  | .scalar _ pattern => some (pattern.setWidth 64)
  | .image _ => none

def signed? : Datum → Option (BitVec 64)
  | .scalar type pattern => if type.isInteger then some (pattern.signExtend 64) else none
  | .image _ => none

def unsigned? : Datum → Option (BitVec 64)
  | .scalar type pattern => if type.isInteger then some (pattern.setWidth 64) else none
  | .image _ => none

end Datum

end LaneLift.Lane
