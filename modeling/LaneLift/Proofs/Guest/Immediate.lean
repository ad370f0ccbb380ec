import LaneLift.Proofs.Guest.Decode

/-!
# What a modified immediate stands for

The architecture defines a modified immediate as a pattern of 64 bits. Expanding it gives one
element of this pattern, which fits its size and is repeated over the pattern.
-/

namespace LaneLift.Guest

/-- The pattern of a modified immediate. The mode with both the last bit of `cmode` and `op` set
is undefined in the architecture; here it is the single-precision number. -/
def immediatePattern (op : BitVec 1) (cmode : BitVec 4) (imm8 : BitVec 8) : BitVec 64 :=
  match cmode.extractLsb' 1 3 with
  | 0b000#3 => (0#24 ++ imm8).replicate 2
  | 0b001#3 => (0#16 ++ imm8 ++ 0#8).replicate 2
  | 0b010#3 => (0#8 ++ imm8 ++ 0#16).replicate 2
  | 0b011#3 => (imm8 ++ 0#24).replicate 2
  | 0b100#3 => (0#8 ++ imm8).replicate 4
  | 0b101#3 => (imm8 ++ 0#8).replicate 4
  | 0b110#3 =>
      if cmode.extractLsb' 0 1 = 0 then (0#16 ++ imm8 ++ BitVec.allOnes 8).replicate 2
      else (0#8 ++ imm8 ++ BitVec.allOnes 16).replicate 2
  | _ =>
      if cmode.extractLsb' 0 1 = 1 then
        (imm8.extractLsb' 7 1 ++ ~~~imm8.extractLsb' 6 1 ++ (imm8.extractLsb' 6 1).replicate 5 ++
          imm8.extractLsb' 0 6 ++ 0#19).replicate 2
      else if op = 0 then imm8.replicate 8
      else
        (imm8.extractLsb' 7 1).replicate 8 ++ (imm8.extractLsb' 6 1).replicate 8 ++
          (imm8.extractLsb' 5 1).replicate 8 ++ (imm8.extractLsb' 4 1).replicate 8 ++
          (imm8.extractLsb' 3 1).replicate 8 ++ (imm8.extractLsb' 2 1).replicate 8 ++
          (imm8.extractLsb' 1 1).replicate 8 ++ (imm8.extractLsb' 0 1).replicate 8

/-! ## Elements -/

namespace ExpandedImmediate

def repeated (expanded : ExpandedImmediate) : BitVec 64 :=
  match expanded.size with
  | 0 => (expanded.element.setWidth 8).replicate 8
  | 1 => (expanded.element.setWidth 16).replicate 4
  | 2 => (expanded.element.setWidth 32).replicate 2
  | _ => expanded.element

theorem getLsbD_repeated {expanded : ExpandedImmediate} (small : expanded.size < 4) {bit : Nat}
    (inside : bit < 64) :
    expanded.repeated.getLsbD bit = expanded.element.getLsbD (bit % (8 * 2 ^ expanded.size)) := by
  rcases expanded with ⟨element, size⟩
  have sizes : size = 0 ∨ size = 1 ∨ size = 2 ∨ size = 3 := by
    simp only at small
    omega
  rcases sizes with rfl | rfl | rfl | rfl
  case inr.inr.inr => exact congrArg element.getLsbD (Nat.mod_eq_of_lt inside).symm
  all_goals
    simp only [repeated]
    rw [BitVec.getLsbD_replicate, BitVec.getLsbD_setWidth, decide_eq_true (by omega),
      decide_eq_true (by omega), Bool.true_and, Bool.true_and]
    rfl

end ExpandedImmediate

section Elements

variable (byte : BitVec 8)

theorem setWidth_word_shifted :
    (byte.setWidth 64 <<< 0).setWidth 32 = 0#24 ++ byte ∧
    (byte.setWidth 64 <<< 8).setWidth 32 = 0#16 ++ byte ++ 0#8 ∧
    (byte.setWidth 64 <<< 16).setWidth 32 = 0#8 ++ byte ++ 0#16 ∧
    (byte.setWidth 64 <<< 24).setWidth 32 = byte ++ 0#24 := by
  revert byte
  decide +kernel

theorem setWidth_halfword_shifted :
    (byte.setWidth 64 <<< 0).setWidth 16 = 0#8 ++ byte ∧
    (byte.setWidth 64 <<< 8).setWidth 16 = byte ++ 0#8 := by
  revert byte
  decide +kernel

theorem setWidth_word_before_ones :
    (byte.setWidth 64 <<< 8 ||| 0xff).setWidth 32 = 0#16 ++ byte ++ BitVec.allOnes 8 ∧
    (byte.setWidth 64 <<< 16 ||| 0xffff).setWidth 32 = 0#8 ++ byte ++ BitVec.allOnes 16 := by
  revert byte
  decide +kernel

theorem spreadBits_eq_replicate :
    spreadBits byte =
      (byte.extractLsb' 7 1).replicate 8 ++ (byte.extractLsb' 6 1).replicate 8 ++
        (byte.extractLsb' 5 1).replicate 8 ++ (byte.extractLsb' 4 1).replicate 8 ++
        (byte.extractLsb' 3 1).replicate 8 ++ (byte.extractLsb' 2 1).replicate 8 ++
        (byte.extractLsb' 1 1).replicate 8 ++ (byte.extractLsb' 0 1).replicate 8 := by
  have ones : ∀ bit : BitVec 1, bit.replicate 8 = if bit = 1 then 0xff else 0 := by decide
  simp only [ones]
  revert byte
  decide +kernel

theorem toNat_shifted_lt {amount width : Nat} (fits : 8 + amount ≤ width) :
    (byte.setWidth 64 <<< amount).toNat < 2 ^ width := by
  have small : (byte.setWidth 64).toNat < 2 ^ 8 := by
    rw [BitVec.toNat_setWidth_of_le (by decide)]
    exact byte.isLt
  calc (byte.setWidth 64 <<< amount).toNat ≤ (byte.setWidth 64).toNat * 2 ^ amount := by
        rw [BitVec.toNat_shiftLeft, Nat.shiftLeft_eq]
        exact Nat.mod_le _ _
    _ < 2 ^ 8 * 2 ^ amount := Nat.mul_lt_mul_of_pos_right small (Nat.two_pow_pos amount)
    _ = 2 ^ (8 + amount) := (Nat.pow_add 2 8 amount).symm
    _ ≤ 2 ^ width := Nat.pow_le_pow_right (by decide) fits

end Elements

/-- The expanded element is repeated over the pattern. -/
theorem repeated_expandImmediate (op : BitVec 1) (cmode : BitVec 4) (imm8 : BitVec 8) :
    (expandImmediate cmode.toNat op.toNat imm8.toNat).repeated =
      immediatePattern op cmode imm8 := by
  have byte : BitVec.ofNat 8 imm8.toNat = imm8 := BitVec.ofNat_toNat 8 imm8 ▸ BitVec.setWidth_eq _
  have modes : ∀ code : BitVec 4, code.toNat / 2 = (code.extractLsb' 1 3).toNat := by decide
  have parities : ∀ code : BitVec 4, code.toNat % 2 = (code.extractLsb' 0 1).toNat := by decide
  have uppers : ∀ upper : BitVec 3, upper = 0b000 ∨ upper = 0b001 ∨ upper = 0b010 ∨
      upper = 0b011 ∨ upper = 0b100 ∨ upper = 0b101 ∨ upper = 0b110 ∨ upper = 0b111 := by decide
  have bits : ∀ bit : BitVec 1, bit = 0 ∨ bit = 1 := by decide
  have plain : (imm8.setWidth 64).setWidth 8 = imm8 := by
    rw [BitVec.setWidth_setWidth (by decide), BitVec.setWidth_eq]
  have number : ((floatImmediate imm8).setWidth 64).setWidth 32 = floatImmediate imm8 := by
    rw [BitVec.setWidth_setWidth (by decide), BitVec.setWidth_eq]
  rcases setWidth_word_shifted imm8 with ⟨word0, word1, word2, word3⟩
  rcases setWidth_halfword_shifted imm8 with ⟨halfword0, halfword1⟩
  rcases setWidth_word_before_ones imm8 with ⟨ones1, ones2⟩
  -- Both sides now branch on the same bits of the codes.
  simp only [expandImmediate, byte, modes, parities, immediatePattern]
  rcases uppers (cmode.extractLsb' 1 3) with mode | mode | mode | mode | mode | mode | mode | mode
  all_goals rw [mode]
  · exact congrArg (·.replicate 2) word0
  · exact congrArg (·.replicate 2) word1
  · exact congrArg (·.replicate 2) word2
  · exact congrArg (·.replicate 2) word3
  · exact congrArg (·.replicate 4) halfword0
  · exact congrArg (·.replicate 4) halfword1
  · rcases bits (cmode.extractLsb' 0 1) with parity | parity <;> rw [parity]
    · exact congrArg (·.replicate 2) ones1
    · exact congrArg (·.replicate 2) ones2
  · rcases bits (cmode.extractLsb' 0 1) with parity | parity <;> rw [parity]
    · rcases bits op with code | code <;> rw [code]
      · exact congrArg (·.replicate 8) plain
      · exact spreadBits_eq_replicate imm8
    · exact congrArg (·.replicate 2) number

/-! ## All codes -/

section Codes

variable (cmode op imm8 : Nat)

/-- An element fits its size, for codes of any size. -/
theorem toNat_element_expandImmediate_lt :
    (expandImmediate cmode op imm8).element.toNat <
      2 ^ (8 * 2 ^ (expandImmediate cmode op imm8).size) := by
  have plain : ∀ {width : Nat} (x : BitVec width), width ≤ 64 →
      (x.setWidth 64).toNat < 2 ^ width := by
    intro width x narrow
    rw [BitVec.toNat_setWidth_of_le narrow]
    exact x.isLt
  have joined : ∀ (amount : Nat) (ones : BitVec 64), 8 + amount ≤ 32 → ones.toNat < 2 ^ 32 →
      (((BitVec.ofNat 8 imm8).setWidth 64 <<< amount) ||| ones).toNat < 2 ^ 32 := by
    intro amount ones fits small
    rw [BitVec.toNat_or]
    exact Nat.or_lt_two_pow (toNat_shifted_lt _ fits) small
  simp only [expandImmediate]
  split_ifs
  · exact toNat_shifted_lt _ (show 8 + 8 * (cmode / 2) ≤ 32 by omega)
  · exact toNat_shifted_lt _ (show 8 + 8 * (cmode / 2 % 2) ≤ 16 by omega)
  · exact joined 8 0xff (by decide) (by decide)
  · exact joined 16 0xffff (by decide) (by decide)
  · exact plain (floatImmediate _) (by decide)
  · exact plain (BitVec.ofNat 8 imm8) (by decide)
  · exact BitVec.isLt _

theorem expandImmediate_eq_of_low_byte_eq {other : Nat} (low : imm8 % 2 ^ 8 = other % 2 ^ 8) :
    expandImmediate cmode op imm8 = expandImmediate cmode op other := by
  have byte : BitVec.ofNat 8 imm8 = BitVec.ofNat 8 other := by
    rw [← BitVec.toNat_inj, BitVec.toNat_ofNat, BitVec.toNat_ofNat, low]
  simp only [expandImmediate, byte]

end Codes

end LaneLift.Guest
