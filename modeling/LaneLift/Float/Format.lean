/-!
# Floating-point bit patterns

A floating-point number is handled as its bit pattern throughout. A `FloatFormat`
says how the pattern divides into sign, exponent and fraction; the moves that
only touch the sign bit are defined on patterns directly and keep every other
bit, also those of a NaN.
-/

namespace LaneLift

inductive FloatFormat where
  | single
  | double
  deriving DecidableEq, Repr

namespace FloatFormat

def fractionBits : FloatFormat → Nat
  | .single => 23
  | .double => 52

def exponentBits : FloatFormat → Nat
  | .single => 8
  | .double => 11

@[reducible] def width : FloatFormat → Nat
  | .single => 32
  | .double => 64

def signMask (format : FloatFormat) : BitVec format.width :=
  BitVec.twoPow format.width (format.width - 1)

def negate (format : FloatFormat) (pattern : BitVec format.width) : BitVec format.width :=
  pattern ^^^ format.signMask

def absolute (format : FloatFormat) (pattern : BitVec format.width) : BitVec format.width :=
  pattern &&& ~~~format.signMask

def fraction (format : FloatFormat) (pattern : BitVec format.width) : Nat :=
  (pattern.extractLsb' 0 format.fractionBits).toNat

def exponent (format : FloatFormat) (pattern : BitVec format.width) : Nat :=
  (pattern.extractLsb' format.fractionBits format.exponentBits).toNat

/-- The biased exponent that marks infinities and NaNs. -/
def specialExponent (format : FloatFormat) : Nat :=
  1 <<< format.exponentBits - 1

/-- The amount by which a stored exponent exceeds the true one. -/
def bias (format : FloatFormat) : Int :=
  (1 <<< (format.exponentBits - 1) - 1 : Nat)

def isNaN (format : FloatFormat) (pattern : BitVec format.width) : Bool :=
  format.exponent pattern = format.specialExponent && format.fraction pattern ≠ 0

end FloatFormat

end LaneLift
