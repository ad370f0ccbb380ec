import LaneLift.Float.Format

/-!
# Floating-point arithmetic on bit patterns

Five operations round. They are given as functions from bit patterns to a bit
pattern, and nothing else is known of them: which NaN a result is, in particular,
is up to the machine. Each rounds on its own, so no product is ever fused with a
following sum.
-/

namespace LaneLift

class FloatArithmetic where
  add (format : FloatFormat) (x y : BitVec format.width) : BitVec format.width
  subtract (format : FloatFormat) (x y : BitVec format.width) : BitVec format.width
  multiply (format : FloatFormat) (x y : BitVec format.width) : BitVec format.width
  divide (format : FloatFormat) (x y : BitVec format.width) : BitVec format.width
  squareRoot (format : FloatFormat) (x : BitVec format.width) : BitVec format.width

namespace FloatFormat

export FloatArithmetic (add subtract multiply divide squareRoot)

/-! ## A machine

Results are rounded to nearest, ties to even, and subnormal numbers are kept. A
NaN among the operands is passed on with its payload, the first one if there are
two; it is made quiet. Operands that are numbers and have no result make the NaN
below. -/

/-- The sign, all of the exponent and the top bit of the fraction. -/
def invalid (format : FloatFormat) : BitVec format.width :=
  BitVec.allOnes format.width <<< (format.fractionBits - 1)

def quiet (format : FloatFormat) (pattern : BitVec format.width) : BitVec format.width :=
  pattern ||| BitVec.twoPow format.width (format.fractionBits - 1)

def orInvalid (format : FloatFormat) (result : BitVec format.width) : BitVec format.width :=
  if format.isNaN result then format.invalid else result

def lift₁ (single : Float32 → Float32) (double : Float → Float) (format : FloatFormat)
    (x : BitVec format.width) : BitVec format.width :=
  if format.isNaN x then format.quiet x
  else
    format.orInvalid <| match format, x with
      | .single, x => (single (Float32.ofBits ⟨x⟩)).toBits.toBitVec
      | .double, x => (double (Float.ofBits ⟨x⟩)).toBits.toBitVec

def lift₂ (single : Float32 → Float32 → Float32) (double : Float → Float → Float)
    (format : FloatFormat) (x y : BitVec format.width) : BitVec format.width :=
  if format.isNaN x then format.quiet x
  else if format.isNaN y then format.quiet y
  else
    format.orInvalid <| match format, x, y with
      | .single, x, y => (single (Float32.ofBits ⟨x⟩) (Float32.ofBits ⟨y⟩)).toBits.toBitVec
      | .double, x, y => (double (Float.ofBits ⟨x⟩) (Float.ofBits ⟨y⟩)).toBits.toBitVec

end FloatFormat

instance (priority := low) FloatArithmetic.nearest : FloatArithmetic where
  add := FloatFormat.lift₂ Float32.add Float.add
  subtract := FloatFormat.lift₂ Float32.sub Float.sub
  multiply := FloatFormat.lift₂ Float32.mul Float.mul
  divide := FloatFormat.lift₂ Float32.div Float.div
  squareRoot := FloatFormat.lift₁ Float32.sqrt Float.sqrt

example : FloatFormat.single.add 0x3fa00000 0x7fc00001 = 0x7fc00001 := by decide
example : FloatFormat.single.subtract 0x7f800000 0x7f800000 = 0xffc00000 := by decide

end LaneLift
