import LaneLift.Guest.Table

/-!
# What the table says about a word

A row that matches a word tells the bits that it fixes. No word matches two rows,
except that clearing a bitfield is also inserting one, so a row other than those
two is found for every word that it matches.
-/

namespace LaneLift.Guest

namespace Row

theorem getLsbD_of_matches {row : Row} {word : Word} (isMatch : row.matches word = true)
    {bit : Nat} (fixed : row.mask.getLsbD bit = true) :
    word.getLsbD bit = row.value.getLsbD bit := by
  have same : word &&& row.mask = row.value := by simpa [Row.matches] using isMatch
  rw [← same, BitVec.getLsbD_and, fixed, Bool.and_true]

def conflicts (left right : Row) : Bool :=
  left.mask &&& right.mask &&& (left.value ^^^ right.value) != 0

theorem not_matches_of_conflicts {left right : Row} {word : Word}
    (conflict : left.conflicts right = true) (isMatch : left.matches word = true) :
    right.matches word = false := by
  cases other : right.matches word with
  | false => rfl
  | true =>
      have same : left.mask &&& right.mask &&& (left.value ^^^ right.value) = 0 := by
        apply BitVec.eq_of_getLsbD_eq
        intro bit inside
        rw [BitVec.getLsbD_and, BitVec.getLsbD_and, BitVec.getLsbD_xor]
        cases fixedLeft : left.mask.getLsbD bit <;> cases fixedRight : right.mask.getLsbD bit
        case true.true =>
          rw [← getLsbD_of_matches isMatch fixedLeft, ← getLsbD_of_matches other fixedRight]
          simp
        all_goals simp
      simp [conflicts, same] at conflict

end Row

theorem conflicts_of_mem_table : ∀ left ∈ table, ∀ right ∈ table,
    left = right ∨ left.descriptor.mnemonic.isBitfield = true ∨ left.conflicts right = true := by
  decide +kernel

theorem eq_or_isBitfield_of_matches {left right : Row} {word : Word} (leftMember : left ∈ table)
    (rightMember : right ∈ table) (leftMatch : left.matches word = true)
    (rightMatch : right.matches word = true) :
    left = right ∨ left.descriptor.mnemonic.isBitfield = true := by
  rcases conflicts_of_mem_table left leftMember right rightMember with
    same | isField | conflict
  · exact .inl same
  · exact .inr isField
  · rw [Row.not_matches_of_conflicts conflict leftMatch] at rightMatch
    cases rightMatch

theorem lookup?_of_matches {row : Row} {word : Word} (member : row ∈ table)
    (field : row.descriptor.mnemonic.isBitfield = false) (isMatch : row.matches word = true) :
    lookup? word = some row := by
  cases found : lookup? word with
  | none =>
      rw [lookup?, firstMatch?] at found
      exact absurd isMatch (List.find?_eq_none.mp found row member)
  | some other =>
      rw [lookup?, firstMatch?] at found
      have otherMatch : other.matches word = true := by simpa using List.find?_some found
      rcases eq_or_isBitfield_of_matches member (List.mem_of_find?_eq_some found) isMatch
        otherMatch with same | isField
      · rw [same]
      · rw [field] at isField
        cases isField

theorem mem_table_of_lookup? {word : Word} {row : Row} (found : lookup? word = some row) :
    row ∈ table ∧ row.matches word = true := by
  rw [lookup?, firstMatch?] at found
  exact ⟨List.mem_of_find?_eq_some found, by simpa using List.find?_some found⟩

end LaneLift.Guest
