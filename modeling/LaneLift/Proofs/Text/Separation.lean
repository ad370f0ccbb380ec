import LaneLift.Text.Hexadecimal
import Mathlib.Algebra.Ring.Nat

/-!
# Texts that can be taken apart

A text that is put together from pieces determines them if a character stands between them that
none of them has. Names and numerals are plain pieces: letters, digits, underscores and minus
signs. A numeral determines its number.
-/

namespace LaneLift

/-! ## Separators -/

namespace Separation

section Lists

variable {α : Type} {separator : α} {left right before after : List α}

theorem eq_of_append_cons_eq (absentLeft : separator ∉ left) (absentRight : separator ∉ right)
    (same : left ++ separator :: before = right ++ separator :: after) :
    left = right ∧ before = after := by
  induction left generalizing right with
  | nil =>
      cases right with
      | nil => exact ⟨rfl, List.tail_eq_of_cons_eq same⟩
      | cons other others =>
          exact absurd (List.head_eq_of_cons_eq same ▸ List.mem_cons_self) absentRight
  | cons first rest induction =>
      cases right with
      | nil => exact absurd (List.head_eq_of_cons_eq same ▸ List.mem_cons_self) absentLeft
      | cons other others =>
          rw [List.mem_cons, not_or] at absentLeft absentRight
          rcases induction absentLeft.2 absentRight.2 (List.tail_eq_of_cons_eq same) with
            ⟨sameRest, sameAfter⟩
          exact ⟨by rw [List.head_eq_of_cons_eq same, sameRest], sameAfter⟩

/-- Pieces that end with a separator can be told apart in their concatenation. -/
theorem eq_of_flatMap_eq {rest : List α} {first second : List (List α)}
    (absentFirst : ∀ piece ∈ first, separator ∉ piece)
    (absentSecond : ∀ piece ∈ second, separator ∉ piece)
    (same : first.flatMap (· ++ separator :: rest) = second.flatMap (· ++ separator :: rest)) :
    first = second := by
  induction first generalizing second with
  | nil =>
      cases second with
      | nil => rfl
      | cons other others => simp at same
  | cons piece pieces induction =>
      cases second with
      | nil => simp at same
      | cons other others =>
          rw [List.forall_mem_cons] at absentFirst absentSecond
          rw [List.flatMap_cons, List.flatMap_cons, List.append_assoc, List.append_assoc,
            List.cons_append, List.cons_append] at same
          rcases eq_of_append_cons_eq absentFirst.1 absentSecond.1 same with
            ⟨samePiece, sameRest⟩
          rw [samePiece, induction absentFirst.2 absentSecond.2
            (List.append_cancel_left sameRest)]

end Lists

section Strings

variable {separator left right before after : String} {first : Char} {rest : List Char}
  (starts : separator.toList = first :: rest)

include starts

theorem eq_of_append_eq (absentLeft : first ∉ left.toList) (absentRight : first ∉ right.toList)
    (same : left ++ separator ++ before = right ++ separator ++ after) :
    left = right ∧ before = after := by
  rw [← String.toList_inj] at same
  simp only [String.toList_append, starts, List.append_assoc, List.cons_append] at same
  rcases eq_of_append_cons_eq absentLeft absentRight same with ⟨sameLeft, sameRest⟩
  exact ⟨String.toList_inj.mp sameLeft, String.toList_inj.mp (List.append_cancel_left sameRest)⟩

theorem eq_of_append_eq_last (single : rest = []) (absentBefore : first ∉ before.toList)
    (absentAfter : first ∉ after.toList)
    (same : left ++ separator ++ before = right ++ separator ++ after) :
    left = right ∧ before = after := by
  have reversed : before.toList.reverse ++ first :: left.toList.reverse =
      after.toList.reverse ++ first :: right.toList.reverse := by
    simpa [starts, single] using congrArg (fun text => text.toList.reverse) same
  rcases eq_of_append_cons_eq (by simpa using absentBefore) (by simpa using absentAfter) reversed
    with ⟨sameBefore, sameLeft⟩
  exact ⟨String.toList_inj.mp (List.reverse_inj.mp sameLeft),
    String.toList_inj.mp (List.reverse_inj.mp sameBefore)⟩

theorem eq_of_join_eq {texts others : List String} (absent : ∀ text ∈ texts, first ∉ text.toList)
    (absentOthers : ∀ text ∈ others, first ∉ text.toList)
    (same : String.join (texts.map (· ++ separator)) = String.join (others.map (· ++ separator))) :
    texts = others := by
  have texts_joined : ∀ texts : List String, (String.join (texts.map (· ++ separator))).toList =
      (texts.map String.toList).flatMap (· ++ first :: rest) := by
    intro texts
    simp [String.toList_join, List.flatMap_map, starts]
  apply (List.map_inj_right fun _ _ => String.toList_inj.mp).mp
  apply eq_of_flatMap_eq (by simpa using absent) (by simpa using absentOthers)
  rw [← texts_joined, ← texts_joined, same]

omit starts in
theorem intercalate_append (separator : String) : ∀ {texts : List String}, texts ≠ [] →
    separator.intercalate texts ++ separator = String.join (texts.map (· ++ separator))
  | [text], _ => by
      rw [String.intercalate_singleton, List.map_singleton, String.join_cons, String.join_nil,
        String.append_empty]
  | text :: next :: texts, _ => by
      rw [String.intercalate_cons_cons, List.map_cons, String.join_cons, String.append_assoc,
        intercalate_append separator (List.cons_ne_nil next texts)]

theorem eq_of_intercalate_eq {texts others : List String} (nonempty : texts ≠ [])
    (othersNonempty : others ≠ []) (absent : ∀ text ∈ texts, first ∉ text.toList)
    (absentOthers : ∀ text ∈ others, first ∉ text.toList)
    (same : separator.intercalate texts = separator.intercalate others) : texts = others := by
  apply eq_of_join_eq starts absent absentOthers
  rw [← intercalate_append separator nonempty, same, intercalate_append separator othersNonempty]

end Strings

end Separation

/-! ## Characters of a text -/

def MadeOf (allowed : Char → Bool) (text : String) : Prop :=
  ∀ character ∈ text.toList, allowed character = true

instance (allowed : Char → Bool) (text : String) : Decidable (MadeOf allowed text) :=
  List.decidableBAll (fun character => allowed character = true) text.toList

namespace MadeOf

variable {allowed : Char → Bool} {text left right separator : String}

theorem weaken {more : Char → Bool} (made : MadeOf allowed text)
    (allowsMore : ∀ character, allowed character = true → more character = true) :
    MadeOf more text :=
  fun character member => allowsMore character (made character member)

theorem append (madeLeft : MadeOf allowed left) (madeRight : MadeOf allowed right) :
    MadeOf allowed (left ++ right) := by
  intro character member
  rw [String.toList_append, List.mem_append] at member
  exact member.elim (madeLeft character) (madeRight character)

theorem intercalate (madeSeparator : MadeOf allowed separator) : ∀ {texts : List String},
    (∀ text ∈ texts, MadeOf allowed text) → MadeOf allowed (separator.intercalate texts)
  | [], _ => by
      rw [String.intercalate_nil]
      exact fun _ member => absurd member List.not_mem_nil
  | [text], madeTexts => by
      rw [String.intercalate_singleton]
      exact madeTexts text List.mem_cons_self
  | text :: next :: texts, madeTexts => by
      rw [List.forall_mem_cons] at madeTexts
      rw [String.intercalate_cons_cons]
      exact (madeTexts.1.append madeSeparator).append (intercalate madeSeparator madeTexts.2)

theorem absent (made : MadeOf allowed text) {character : Char}
    (forbidden : allowed character = false) : character ∉ text.toList := by
  intro member
  rw [made character member] at forbidden
  cases forbidden

end MadeOf

def isPlain (character : Char) : Bool :=
  character.isAlphanum || character = '_' || character = '-'

/-! ## Decimal numerals -/

def isDecimal (character : Char) : Bool :=
  character.isDigit || character = '-'

theorem isDigit_of_mem_toString {number : Nat} {character : Char}
    (member : character ∈ (toString number).toList) : character.isDigit = true := by
  rw [Nat.toString_eq_repr, Nat.toList_repr] at member
  exact Nat.isDigit_of_mem_toDigits (by decide) (by decide) member

theorem toString_nat_injective {left right : Nat} (same : toString left = toString right) :
    left = right := by
  rw [Nat.toString_eq_repr, Nat.toString_eq_repr, ← String.toList_inj, Nat.toList_repr,
    Nat.toList_repr] at same
  rw [← Nat.ofDigitChars_ten_toDigits (n := left), same, Nat.ofDigitChars_ten_toDigits]

theorem toString_negSucc (number : Nat) :
    toString (Int.negSucc number) = "-" ++ toString (number + 1) :=
  rfl

theorem decimal_toString_nat (number : Nat) : MadeOf isDecimal (toString number) := by
  intro character member
  rw [isDecimal, isDigit_of_mem_toString member, Bool.true_or]

theorem decimal_toString_int (number : Int) : MadeOf isDecimal (toString number) := by
  cases number with
  | ofNat number => exact decimal_toString_nat number
  | negSucc number =>
      rw [toString_negSucc]
      exact MadeOf.append (by decide) (decimal_toString_nat (number + 1))

theorem isPlain_of_isDecimal (character : Char) (decimal : isDecimal character = true) :
    isPlain character = true := by
  rw [isDecimal, Bool.or_eq_true] at decimal
  rw [isPlain, Char.isAlphanum, Bool.or_eq_true, Bool.or_eq_true, Bool.or_eq_true]
  exact decimal.imp_left fun digit => .inl (.inr digit)

theorem plain_toString_nat (number : Nat) : MadeOf isPlain (toString number) :=
  (decimal_toString_nat number).weaken isPlain_of_isDecimal

theorem plain_toString_int (number : Int) : MadeOf isPlain (toString number) :=
  (decimal_toString_int number).weaken isPlain_of_isDecimal

theorem toString_int_injective {left right : Int} (same : toString left = toString right) :
    left = right := by
  have minus_absent : ∀ number : Nat, '-' ∉ (toString (Int.ofNat number)).toList := by
    intro number member
    cases isDigit_of_mem_toString member
  have minus_present : ∀ number, '-' ∈ (toString (Int.negSucc number)).toList := by
    intro number
    rw [toString_negSucc, String.toList_append]
    exact List.mem_append_left _ List.mem_cons_self
  cases left with
  | ofNat left =>
      cases right with
      | ofNat right => exact congrArg Int.ofNat (toString_nat_injective same)
      | negSucc right => exact absurd (same ▸ minus_present right) (minus_absent left)
  | negSucc left =>
      cases right with
      | ofNat right => exact absurd (same ▸ minus_present left) (minus_absent right)
      | negSucc right =>
          rw [toString_negSucc, toString_negSucc, String.append_right_inj] at same
          exact congrArg Int.negSucc (Nat.succ.inj (toString_nat_injective same))

/-! ## Hexadecimal numerals -/

namespace Hexadecimal

theorem digit_mod (value : Nat) : digit (value % 16) = digit value := by
  rw [digit, digit, Nat.mod_mod]

theorem digit_injective : ∀ left < 16, ∀ right < 16, digit left = digit right → left = right := by
  decide

theorem isPlain_digit (value : Nat) : isPlain (digit value) = true := by
  have plain : ∀ value < 16, isPlain (digit value) = true := by decide
  rw [← digit_mod]
  exact plain _ (Nat.mod_lt value (by decide))

theorem mod_eq_of_digits_eq {count left right : Nat}
    (same : digits count left = digits count right) : left % 16 ^ count = right % 16 ^ count := by
  induction count generalizing left right with
  | zero => rw [Nat.pow_zero, Nat.mod_one, Nat.mod_one]
  | succ count induction =>
      rcases List.append_inj' same rfl with ⟨sameRest, sameLast⟩
      have lowDigit : left % 16 = right % 16 := by
        apply digit_injective _ (Nat.mod_lt _ (by decide)) _ (Nat.mod_lt _ (by decide))
        rw [digit_mod, digit_mod]
        exact List.head_eq_of_cons_eq sameLast
      rw [Nat.pow_succ', Nat.mod_mul, Nat.mod_mul, lowDigit, induction sameRest]

theorem plain_padded (count value : Nat) : MadeOf isPlain (padded count value) := by
  intro character member
  rw [padded, String.toList_ofList] at member
  induction count generalizing value with
  | zero => cases member
  | succ count induction =>
      rw [digits, List.mem_append, List.mem_singleton] at member
      rcases member with earlier | rfl
      · exact induction _ earlier
      · exact isPlain_digit value

theorem padded_toNat_injective {count : Nat} {left right : BitVec (4 * count)}
    (same : padded count left.toNat = padded count right.toNat) : left = right := by
  have sameDigits : digits count left.toNat = digits count right.toNat := by
    rw [← String.toList_inj, padded, padded, String.toList_ofList, String.toList_ofList] at same
    exact same
  have bound : 2 ^ (4 * count) = 16 ^ count := by
    rw [Nat.pow_mul]
  have sameNumber := mod_eq_of_digits_eq sameDigits
  rw [← bound, Nat.mod_eq_of_lt left.isLt, Nat.mod_eq_of_lt right.isLt] at sameNumber
  exact BitVec.eq_of_toNat_eq sameNumber

end Hexadecimal

end LaneLift
