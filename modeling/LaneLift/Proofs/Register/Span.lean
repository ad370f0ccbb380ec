import LaneLift.Proofs.Register.Memory

/-!
# Registers as spans of the memory

A register covers adjacent bytes of the memory. Two register files are equal if
their bytes are, and a number that begins at an offset is as good as its bytes.
-/

namespace LaneLift

structure Span where
  offset : Nat
  bytes : Nat
  deriving DecidableEq, Repr

namespace Span

def Covers (span : Span) (offset : Nat) : Prop :=
  span.offset ≤ offset ∧ offset < span.offset + span.bytes

instance (span : Span) (offset : Nat) : Decidable (span.Covers offset) :=
  inferInstanceAs (Decidable (_ ∧ _))

def Apart (left right : Span) : Prop :=
  left.offset + left.bytes ≤ right.offset ∨ right.offset + right.bytes ≤ left.offset

instance (left right : Span) : Decidable (left.Apart right) :=
  inferInstanceAs (Decidable (_ ∨ _))

theorem not_covers_iff {span : Span} {offset : Nat} :
    ¬span.Covers offset ↔ offset < span.offset ∨ span.offset + span.bytes ≤ offset := by
  simp only [Covers]
  omega

theorem Apart.symm {left right : Span} (apart : left.Apart right) : right.Apart left :=
  Or.symm apart

theorem Apart.not_covers {left right : Span} (apart : left.Apart right) {offset : Nat}
    (covered : right.Covers offset) : ¬left.Covers offset := by
  simp only [Apart, Covers] at *
  omega

end Span

def RegisterClass.span (registers : RegisterClass) (index : Nat) : Span :=
  ⟨registers.offset index, registers.bytes⟩

/-- Two `D` registers, or two `Q` registers, are the same bytes or have none in common. -/
theorem RegisterClass.offset_eq_or_apart {registers : RegisterClass}
    (vector : registers.isVector = true) (left right : Nat) :
    registers.offset left = registers.offset right ∨
      (registers.span left).Apart (registers.span right) := by
  cases registers <;> simp only [isVector, Bool.false_eq_true] at vector
  all_goals
    simp only [Span.Apart, span, offset, bytes]
    omega

namespace RegisterFile

def AgreeOn (span : Span) (left right : RegisterFile) : Prop :=
  ∀ offset, span.Covers offset → left.byte offset = right.byte offset

theorem ext_byte {left right : RegisterFile}
    (same : ∀ offset, left.byte offset = right.byte offset) : left = right := by
  apply RegisterFile.ext
  intro bank
  have sameImage : left.image bank = right.image bank := by
    apply BitVec.eq_of_getLsbD_eq
    intro bit inside
    have byte : (left.byte (16 * bank + bit / 8)).getLsbD (bit % 8) =
        (right.byte (16 * bank + bit / 8)).getLsbD (bit % 8) := by
      rw [same]
    have sameBank : (16 * bank.val + bit / 8) / 16 = bank := by omega
    have sameBit : 8 * ((16 * bank.val + bit / 8) % 16) + bit % 8 = bit := by omega
    have insideByte : bit % 8 < 8 := by omega
    rw [getLsbD_byte, getLsbD_byte, sameBank, sameBit, decide_eq_true insideByte, Bool.true_and,
      Bool.true_and] at byte
    exact byte
  simpa [image, bank?] using sameImage

theorem number_congr {left right : RegisterFile} {offset width : Nat}
    (same : ∀ index < width / 8, left.byte (offset + index) = right.byte (offset + index)) :
    left.number offset width = right.number offset width := by
  rw [number, number]
  congr 1
  apply List.map_congr_left
  intro index member
  exact same index (List.mem_range.mp member)

theorem byte_eq_extractLsb'_number (file : RegisterFile) (offset : Nat) {width index : Nat}
    (whole : 8 ∣ width) (inside : index < width / 8) :
    file.byte (offset + index) = (file.number offset width).extractLsb' (8 * index) 8 := by
  apply BitVec.eq_of_getLsbD_eq
  intro bit insideByte
  have insideNumber : 8 * index + bit < width := by omega
  have quotient : (8 * index + bit) / 8 = index := by omega
  have remainder : (8 * index + bit) % 8 = bit := by omega
  rw [BitVec.getLsbD_extractLsb', getLsbD_number _ _ _ _ whole, quotient, remainder,
    decide_eq_true insideByte, decide_eq_true insideNumber, Bool.true_and, Bool.true_and]

theorem byte_of_number_eq {left right : RegisterFile} {offset width index : Nat}
    (whole : 8 ∣ width) (same : left.number offset width = right.number offset width)
    (inside : index < width / 8) : left.byte (offset + index) = right.byte (offset + index) := by
  rw [byte_eq_extractLsb'_number left offset whole inside, same,
    ← byte_eq_extractLsb'_number right offset whole inside]

theorem AgreeOn.number_eq {span : Span} {left right : RegisterFile}
    (agree : AgreeOn span left right) {offset width : Nat} (starts : span.offset ≤ offset)
    (ends : offset + width / 8 ≤ span.offset + span.bytes) :
    left.number offset width = right.number offset width := by
  apply number_congr
  intro index inside
  exact agree _ ⟨by omega, by omega⟩

theorem agreeOn_of_numbers {left right : RegisterFile} {span : Span} {width count : Nat}
    (whole : 8 ∣ width) (fills : span.bytes = width / 8 * count)
    (same : ∀ index < count, left.number (span.offset + width / 8 * index) width =
      right.number (span.offset + width / 8 * index) width) : AgreeOn span left right := by
  intro offset covered
  rcases covered with ⟨starts, ends⟩
  rw [fills] at ends
  have positive : 0 < width / 8 := by
    apply Nat.pos_of_ne_zero
    intro zero
    rw [zero, Nat.zero_mul] at ends
    omega
  have inside : (offset - span.offset) / (width / 8) < count :=
    Nat.div_lt_of_lt_mul (by omega)
  have byte := byte_of_number_eq whole (same _ inside) (Nat.mod_lt (offset - span.offset) positive)
  rw [Nat.add_assoc, Nat.div_add_mod, Nat.add_sub_cancel' starts] at byte
  exact byte

def AgreeOutside (span : Span) (left right : RegisterFile) : Prop :=
  ∀ offset, ¬span.Covers offset → left.byte offset = right.byte offset

theorem AgreeOutside.agreeOn {span other : Span} {left right : RegisterFile}
    (agree : AgreeOutside span left right) (apart : span.Apart other) :
    AgreeOn other left right :=
  fun offset covered => agree offset (apart.not_covers covered)

/-! ## Replacing a lane -/

variable (file : RegisterFile) (bank : Fin bankCount) {width index : Nat} (whole : 8 ∣ width)

include whole in
theorem number_setBank_setLane (positive : 0 < width) (fits : width * index + width ≤ 128)
    (value : BitVec width) :
    (file.setBank bank ((file.image bank).setLane index value)).number
      (16 * bank + width / 8 * index) width = value := by
  have replaced := Image.lane_setLanes (file.image bank) positive index 1 (fun _ => value) 0
    (by decide) (by rw [Nat.mul_succ]; exact fits)
  rw [Nat.zero_add, Image.setLanes, List.range_one, List.foldl_cons, List.foldl_nil,
    Nat.zero_add] at replaced
  rw [number_eq_lane _ _ _ _ whole fits, image_setBank, if_pos rfl, replaced]

include whole in
theorem agreeOutside_setBank_setLane (positive : 0 < width) (value : BitVec width) :
    AgreeOutside ⟨16 * bank + width / 8 * index, width / 8⟩
      (file.setBank bank ((file.image bank).setLane index value)) file := by
  intro offset outside
  have spared : offset < 16 * bank + width / 8 * index ∨
      16 * bank + width / 8 * (index + 1) ≤ offset := by
    simp only [Span.Covers, Nat.mul_succ] at outside ⊢
    omega
  have kept := byte_setBank_setLanes file bank positive whole index 1 (fun _ => value) offset
    spared
  rw [Image.setLanes, List.range_one, List.foldl_cons, List.foldl_nil, Nat.zero_add] at kept
  exact kept

end RegisterFile

end LaneLift
