import LaneLift.Lane.Arithmetic

/-!
# Integer lanes in their own width

Integer lanes are combined in 64 bits and truncated. Truncation respects
arithmetic that wraps around, and extension respects order, so the outcome is
that of wrapping arithmetic in the width of the lanes.
-/

namespace LaneLift.Lane

namespace Opcode

def wrappingUnary? {width : Nat} (x : BitVec width) : Opcode → Option (BitVec width)
  | .ineg => some (-x)
  | .iabs => some x.abs
  | .bnot => some (~~~x)
  | _ => none

def wrappingBinary? {width : Nat} (x y : BitVec width) : Opcode → Option (BitVec width)
  | .iadd => some (x + y)
  | .isub => some (x - y)
  | .imul => some (x * y)
  | .smax => some (if x.sle y then y else x)
  | .smin => some (if x.sle y then x else y)
  | .umax => some (if x.ule y then y else x)
  | .umin => some (if x.ule y then x else y)
  | .band => some (x &&& y)
  | .bor => some (x ||| y)
  | .bxor => some (x ^^^ y)
  | _ => none

def compares : Opcode → Bool
  | .smax | .smin | .umax | .umin => true
  | _ => false

end Opcode

variable {width wide : Nat}

/-! ## Extension and truncation -/

theorem setWidth_signExtend (fits : width ≤ wide) {own : Nat} (x : BitVec own) :
    (x.signExtend wide).setWidth width = x.signExtend width := by
  apply BitVec.eq_of_getLsbD_eq
  intro bit inside
  have insideWide : bit < wide := by omega
  rw [BitVec.getLsbD_setWidth, BitVec.getLsbD_signExtend, BitVec.getLsbD_signExtend]
  simp [inside, insideWide]

theorem truncate_signExtend (fits : width ≤ wide) (x : BitVec width) :
    (x.signExtend wide).setWidth width = x := by
  rw [setWidth_signExtend fits, BitVec.signExtend_eq]

theorem truncate_zeroExtend (fits : width ≤ wide) (x : BitVec width) :
    (x.setWidth wide).setWidth width = x := by
  rw [BitVec.setWidth_setWidth_of_le x fits, BitVec.setWidth_eq]

theorem sle_signExtend (fits : width ≤ wide) (x y : BitVec width) :
    (x.signExtend wide).sle (y.signExtend wide) = x.sle y := by
  simp only [BitVec.sle, BitVec.toInt_signExtend_of_le fits]

theorem ule_setWidth (fits : width ≤ wide) (x y : BitVec width) :
    (x.setWidth wide).ule (y.setWidth wide) = x.ule y := by
  have grows : 2 ^ width ≤ 2 ^ wide := Nat.pow_le_pow_right (by omega) fits
  have left : x.toNat % 2 ^ wide = x.toNat := Nat.mod_eq_of_lt (by omega)
  have right : y.toNat % 2 ^ wide = y.toNat := Nat.mod_eq_of_lt (by omega)
  simp only [BitVec.ule, BitVec.toNat_setWidth, left, right]

theorem setWidth_sub (fits : width ≤ wide) (x y : BitVec wide) :
    (x - y).setWidth width = x.setWidth width - y.setWidth width := by
  rw [BitVec.sub_eq_add_neg, BitVec.setWidth_add _ _ fits, BitVec.setWidth_neg_of_le fits,
    ← BitVec.sub_eq_add_neg]

theorem setWidth_abs_signExtend (fits : width ≤ wide) (x : BitVec width) :
    (x.signExtend wide).abs.setWidth width = x.abs := by
  have sameSign : (x.signExtend wide).msb = x.msb := by
    rw [BitVec.msb_eq_toInt, BitVec.msb_eq_toInt, BitVec.toInt_signExtend_of_le fits]
  rw [BitVec.abs_eq, BitVec.abs_eq, sameSign]
  cases x.msb with
  | false => simp [truncate_signExtend fits]
  | true => simp [BitVec.setWidth_neg_of_le fits, truncate_signExtend fits]

/-! ## Wrapping arithmetic in a wider type -/

namespace Opcode

theorem wrappingBinary?_setWidth (fits : width ≤ wide) {opcode : Opcode}
    (unordered : opcode.compares = false) (x y : BitVec wide) :
    (opcode.wrappingBinary? x y).map (·.setWidth width) =
      opcode.wrappingBinary? (x.setWidth width) (y.setWidth width) := by
  cases opcode <;> try first | rfl | cases unordered
  case iadd => simp [wrappingBinary?, BitVec.setWidth_add _ _ fits]
  case isub => simp [wrappingBinary?, setWidth_sub fits]
  case imul => simp [wrappingBinary?, BitVec.setWidth_mul _ _ fits]
  all_goals simp [wrappingBinary?]

/-- Two integers can be combined sign-extended, unless they are compared without a
sign. -/
theorem wrappingBinary?_signExtend (fits : width ≤ wide) {opcode : Opcode}
    (signed : opcode ≠ .umax ∧ opcode ≠ .umin) (x y : BitVec width) :
    (opcode.wrappingBinary? (x.signExtend wide) (y.signExtend wide)).map (·.setWidth width) =
      opcode.wrappingBinary? x y := by
  cases unordered : opcode.compares with
  | false =>
      rw [wrappingBinary?_setWidth fits unordered, truncate_signExtend fits,
        truncate_signExtend fits]
  | true =>
      cases opcode <;> simp [compares] at unordered signed
      all_goals
        simp only [wrappingBinary?, sle_signExtend fits, Option.map_some]
        split <;> rw [truncate_signExtend fits]

/-- Two integers can be combined zero-extended, unless they are compared with a
sign. -/
theorem wrappingBinary?_zeroExtend (fits : width ≤ wide) {opcode : Opcode}
    (unsigned : opcode ≠ .smax ∧ opcode ≠ .smin) (x y : BitVec width) :
    (opcode.wrappingBinary? (x.setWidth wide) (y.setWidth wide)).map (·.setWidth width) =
      opcode.wrappingBinary? x y := by
  cases unordered : opcode.compares with
  | false =>
      rw [wrappingBinary?_setWidth fits unordered, truncate_zeroExtend fits,
        truncate_zeroExtend fits]
  | true =>
      cases opcode <;> simp [compares] at unordered unsigned
      all_goals
        simp only [wrappingBinary?, ule_setWidth fits, Option.map_some]
        split <;> rw [truncate_zeroExtend fits]

theorem wrappingUnary?_signExtend (fits : width ≤ wide) (opcode : Opcode) (x : BitVec width) :
    (opcode.wrappingUnary? (x.signExtend wide)).map (·.setWidth width) =
      opcode.wrappingUnary? x := by
  cases opcode <;> try rfl
  case ineg =>
    simp [wrappingUnary?, BitVec.setWidth_neg_of_le fits, truncate_signExtend fits]
  case iabs => simp [wrappingUnary?, setWidth_abs_signExtend fits]
  case bnot =>
    simp [wrappingUnary?, BitVec.setWidth_not fits, truncate_signExtend fits]

end Opcode

/-! ## Lanes -/

theorem integerUnary?_eq_wrapping (x : BitVec 64) (opcode : Opcode) :
    integerUnary? x opcode = opcode.wrappingUnary? x := by
  cases opcode <;> rfl

theorem integerBinary?_eq_wrapping (x y unsignedX unsignedY : BitVec 64) (opcode : Opcode) :
    integerBinary? x y unsignedX unsignedY opcode =
      if opcode = .umax ∨ opcode = .umin then opcode.wrappingBinary? unsignedX unsignedY
      else opcode.wrappingBinary? x y := by
  cases opcode <;> rfl

variable [FloatArithmetic]

theorem ScalarType.unary?_eq_wrapping {type : ScalarType} (integer : type.isInteger = true)
    (opcode : Opcode) (x : BitVec type.width) :
    type.unary? opcode x = opcode.wrappingUnary? x := by
  have extended := Opcode.wrappingUnary?_signExtend type.width_le opcode x
  rw [← integerUnary?_eq_wrapping] at extended
  cases type <;> first | exact extended | cases integer

theorem ScalarType.binary?_eq_wrapping {type : ScalarType} (integer : type.isInteger = true)
    (opcode : Opcode) (x y : BitVec type.width) :
    type.binary? opcode x y = opcode.wrappingBinary? x y := by
  have extended :
      (integerBinary? (x.signExtend 64) (y.signExtend 64) (x.setWidth 64) (y.setWidth 64)
        opcode).map (·.setWidth type.width) = opcode.wrappingBinary? x y := by
    rw [integerBinary?_eq_wrapping]
    split
    · rename_i unsigned
      apply Opcode.wrappingBinary?_zeroExtend type.width_le
      rcases unsigned with rfl | rfl <;> decide
    · rename_i signed
      exact Opcode.wrappingBinary?_signExtend type.width_le (not_or.mp signed) x y
  cases type <;> first | exact extended | cases integer

end LaneLift.Lane
