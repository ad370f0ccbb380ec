import LaneLift.Lane.Arithmetic
import LaneLift.Register.Class

/-!
# Float lanes

Float lanes are combined by the operations of their format, each of which rounds
on its own. Negation and absolute value touch the sign bit only, whatever number
or NaN the pattern stands for.
-/

namespace LaneLift

namespace FloatFormat

def scalarType : FloatFormat → Lane.ScalarType
  | .single => .f32
  | .double => .f64

def registers : FloatFormat → RegisterClass
  | .single => .single
  | .double => .double

def withSign (format : FloatFormat) (sign : Bool) (pattern : BitVec format.width) :
    BitVec format.width :=
  (BitVec.cons sign (pattern.setWidth (format.width - 1))).setWidth format.width

variable (format : FloatFormat)

theorem top_lt_width : format.width - 1 < format.width := by
  cases format <;> decide

theorem eight_dvd_width : 8 ∣ format.width := by
  cases format <;> decide

theorem getLsbD_withSign (sign : Bool) (pattern : BitVec format.width) {bit : Nat}
    (inside : bit < format.width) :
    (format.withSign sign pattern).getLsbD bit =
      if bit = format.width - 1 then sign else pattern.getLsbD bit := by
  rw [withSign, BitVec.getLsbD_setWidth, BitVec.getLsbD_cons, BitVec.getLsbD_setWidth]
  by_cases top : bit = format.width - 1
  · simp [top, format.top_lt_width]
  · have below : bit < format.width - 1 := by omega
    simp [top, below, inside]

theorem absolute_eq_withSign (pattern : BitVec format.width) :
    format.absolute pattern = format.withSign false pattern := by
  apply BitVec.eq_of_getLsbD_eq
  intro bit inside
  rw [getLsbD_withSign format false pattern inside, absolute, signMask, BitVec.getLsbD_and,
    BitVec.getLsbD_not, BitVec.getLsbD_twoPow]
  by_cases top : bit = format.width - 1
  · simp [top]
  · have other : ¬format.width - 1 = bit := fun same => top same.symm
    simp [top, other, inside]

theorem negate_eq_withSign (pattern : BitVec format.width) :
    format.negate pattern = format.withSign (!pattern.msb) pattern := by
  apply BitVec.eq_of_getLsbD_eq
  intro bit inside
  rw [getLsbD_withSign format _ pattern inside, negate, signMask, BitVec.getLsbD_xor,
    BitVec.getLsbD_twoPow]
  by_cases top : bit = format.width - 1
  · simp [top, format.top_lt_width, BitVec.msb_eq_getLsbD_last]
  · have other : ¬format.width - 1 = bit := fun same => top same.symm
    simp [top, other]

end FloatFormat

namespace Lane

def Datum.ofPattern : (format : FloatFormat) → BitVec format.width → Datum
  | .single, pattern => .scalar .f32 pattern
  | .double, pattern => .scalar .f64 pattern

namespace Datum

variable [FloatArithmetic] (format : FloatFormat) (opcode : Opcode)

theorem unary?_ofPattern (x : BitVec format.width) :
    (ofPattern format x).unary? opcode =
      (floatUnary? format x opcode).map (ofPattern format) := by
  cases format <;> rfl

theorem binary?_ofPattern (x y : BitVec format.width) :
    (ofPattern format x).binary? opcode (ofPattern format y) =
      (floatBinary? format x y opcode).map (ofPattern format) := by
  cases format <;> rfl

end Datum

end Lane

end LaneLift
