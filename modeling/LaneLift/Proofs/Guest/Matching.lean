import LaneLift.Proofs.Guest.Encoding
import Mathlib.Data.List.Permutation

/-!
# Which rows match a word

A word is matched by no row of the table, by one row, or by the two rows on bitfields. So
the order of the rows only matters for these two: every order in which clearing a bitfield
comes before inserting one finds the same row for every word.
-/

namespace LaneLift.Guest

def matching (rows : List Row) (word : Word) : List Row :=
  rows.filter fun row => row.matches word

section Rows

variable {rows : List Row} {row : Row} {word : Word}

theorem mem_matching : row ∈ matching rows word ↔ row ∈ rows ∧ row.matches word = true :=
  List.mem_filter

theorem firstMatch?_eq_head? (rows : List Row) (word : Word) :
    firstMatch? rows word = (matching rows word).head? :=
  List.head?_filter.symm

theorem matching_cons_of_matches (isMatch : row.matches word = true) (rest : List Row) :
    matching (row :: rest) word = row :: matching rest word :=
  List.filter_cons_of_pos isMatch

/-- What clears a bitfield also matches the row for inserting one. -/
theorem matching_pair_cons (clears : Row.clearing.matches word = true) (rest : List Row) :
    matching (.clearing :: .inserting :: rest) word =
      .clearing :: .inserting :: matching rest word := by
  rw [matching_cons_of_matches clears,
    matching_cons_of_matches (Row.matches_clearing_iff.mp clears).1]

end Rows

theorem map_getElem?_matchingRows (word : Word) :
    (matchingRows word).map (table[·]?) = (matching table word).map some := by
  have atPosition : ∀ entry ∈ table.zipIdx.filter fun entry => entry.1.matches word,
      table[entry.2]? = some entry.1 := by
    intro entry member
    exact List.mk_mem_zipIdx_iff_getElem?.mp (List.mem_filter.mp member).1
  calc (matchingRows word).map (table[·]?)
      = (table.zipIdx.filter fun entry => entry.1.matches word).map
          fun entry => table[entry.2]? := List.map_map
    _ = (table.zipIdx.filter fun entry => entry.1.matches word).map
          fun entry => some entry.1 := List.map_congr_left atPosition
    _ = ((table.zipIdx.map Prod.fst).filter fun row => row.matches word).map some := by
        rw [List.filter_map, List.map_map]
        rfl
    _ = (matching table word).map some := by rw [List.zipIdx_map_fst, matching]

/-! ## The table -/

theorem nodup_table : table.Nodup := by
  decide +kernel

section Table

variable {left right : Row} {word : Word}

theorem clearing_or_inserting_of_matches (leftMember : left ∈ table)
    (rightMember : right ∈ table) (different : left ≠ right)
    (leftMatch : left.matches word = true) (rightMatch : right.matches word = true) :
    left = .clearing ∨ left = .inserting := by
  rcases eq_or_isBitfield_of_matches leftMember rightMember leftMatch rightMatch with
    same | isField
  · exact absurd same different
  · rcases Row.bitfield_cases_of_mem_table left leftMember with other | isRow
    · rw [other] at isField
      cases isField
    · exact isRow

/-- Both rows are on bitfields and they differ, so one of them is for clearing. -/
theorem clears_of_matches (leftMember : left ∈ table) (rightMember : right ∈ table)
    (different : left ≠ right) (leftMatch : left.matches word = true)
    (rightMatch : right.matches word = true) : Row.clearing.matches word = true := by
  rcases clearing_or_inserting_of_matches leftMember rightMember different leftMatch
    rightMatch with rfl | rfl
  · exact leftMatch
  · rcases clearing_or_inserting_of_matches rightMember leftMember different.symm rightMatch
      leftMatch with rfl | rfl
    · exact rightMatch
    · exact absurd rfl different

theorem matching_table_of_clearing (clears : Row.clearing.matches word = true) :
    matching table word = [.clearing, .inserting] := by
  rcases table_eq_cons_cons with ⟨rest, isTable⟩
  have nodup : (Row.clearing :: .inserting :: rest).Nodup := isTable ▸ nodup_table
  have clearingFresh := (List.nodup_cons.mp nodup).1
  have insertingFresh := (List.nodup_cons.mp (List.nodup_cons.mp nodup).2).1
  have others : matching rest word = [] := by
    rw [matching, List.filter_eq_nil_iff]
    intro row member isMatch
    have later : row ∈ Row.inserting :: rest := List.mem_cons_of_mem _ member
    have different : row ≠ .clearing := fun same => clearingFresh (same ▸ later)
    have inTable : row ∈ table := isTable ▸ List.mem_cons_of_mem _ later
    have clearingInTable : Row.clearing ∈ table := isTable ▸ List.mem_cons_self
    rcases clearing_or_inserting_of_matches inTable clearingInTable different isMatch clears with
      same | rfl
    · exact different same
    · exact insertingFresh member
  rw [isTable, matching_pair_cons clears, others]

theorem matching_table_eq_pair_iff :
    matching table word = [.clearing, .inserting] ↔ Row.clearing.matches word = true := by
  refine ⟨fun pair => ?_, matching_table_of_clearing⟩
  have member : Row.clearing ∈ matching table word := pair ▸ List.mem_cons_self
  exact (mem_matching.mp member).2

theorem matching_table_cases (word : Word) :
    matching table word = [] ∨ (∃ row, matching table word = [row]) ∨
      matching table word = [.clearing, .inserting] := by
  cases found : matching table word with
  | nil => exact .inl rfl
  | cons left others =>
      cases others with
      | nil => exact .inr (.inl ⟨left, rfl⟩)
      | cons right rest =>
          have nodup : (left :: right :: rest).Nodup := found ▸ nodup_table.filter _
          have different : left ≠ right := List.ne_of_not_mem_cons (List.nodup_cons.mp nodup).1
          have leftMatches : left ∈ matching table word := by simp [found]
          have rightMatches : right ∈ matching table word := by simp [found]
          rw [mem_matching] at leftMatches rightMatches
          have clears : Row.clearing.matches word = true :=
            clears_of_matches leftMatches.1 rightMatches.1 different leftMatches.2 rightMatches.2
          rw [← found]
          exact .inr (.inr (matching_table_of_clearing clears))

end Table

/-! ## Other orders -/

section Reordered

variable {rows : List Row}

/-- The same rows match a word in the same order. -/
theorem matching_of_reordered (reordered : rows.Perm table)
    (ordered : [Row.clearing, Row.inserting].Sublist rows) (word : Word) :
    matching rows word = matching table word := by
  have permuted : (matching rows word).Perm (matching table word) := reordered.filter _
  rcases matching_table_cases word with none | ⟨row, one⟩ | pair
  · rw [none] at permuted ⊢
    exact permuted.eq_nil
  · rw [one] at permuted ⊢
    exact permuted.eq_singleton
  · have clears : Row.clearing.matches word = true := matching_table_eq_pair_iff.mp pair
    have kept : (matching [.clearing, .inserting] word).Sublist (matching rows word) :=
      ordered.filter _
    rw [matching_pair_cons clears] at kept
    rw [pair] at permuted ⊢
    exact (kept.eq_of_length permuted.length_eq.symm).symm

theorem ordered_of_firstMatch?_eq (reordered : rows.Perm table) {word : Word}
    (clears : Row.clearing.matches word = true)
    (same : firstMatch? rows word = lookup? word) :
    [Row.clearing, Row.inserting].Sublist rows := by
  have permuted : (matching rows word).Perm [.clearing, .inserting] :=
    matching_table_of_clearing clears ▸ reordered.filter _
  have first : (matching rows word).head? = some .clearing := by
    rw [← firstMatch?_eq_head?, same]
    exact lookup?_of_matches_clearing clears
  rcases List.perm_pair.mp permuted with ordered | swapped
  · exact ordered ▸ List.filter_sublist
  · rw [swapped] at first
    cases first

end Reordered

/-- The table is unambiguous. At the positions reported for a word stand the rows that match
it: none, one, or the two on bitfields, and these two exactly if the word clears a bitfield.
So the orders of the table in which the first match of every word is the row that is looked
up are those that keep clearing before inserting. -/
theorem table_unambiguous :
    (∀ word,
      (matchingRows word).map (table[·]?) = (matching table word).map some ∧
      (matching table word = [] ∨ (∃ row, matching table word = [row]) ∨
        matching table word = [.clearing, .inserting]) ∧
      (matching table word = [.clearing, .inserting] ↔
        Row.clearing.matches word = true)) ∧
    ∀ rows : List Row, rows.Perm table →
      ([Row.clearing, Row.inserting].Sublist rows ↔
        ∀ word, firstMatch? rows word = lookup? word) := by
  constructor
  · intro word
    exact ⟨map_getElem?_matchingRows word, matching_table_cases word,
      matching_table_eq_pair_iff⟩
  · intro rows reordered
    constructor
    · intro ordered word
      rw [lookup?, firstMatch?_eq_head?, firstMatch?_eq_head?,
        matching_of_reordered reordered ordered word]
    · intro same
      exact ordered_of_firstMatch?_eq reordered
        (matches_value_of_mem_table .clearing (by decide)) (same Row.clearing.value)

/-- All rows in the opposite order, but for the two on bitfields. -/
theorem table_unambiguous_backwards :
    let rows := (table.drop 2).reverse ++ table.take 2
    rows.Perm table ∧ [Row.clearing, Row.inserting].Sublist rows ∧
      (firstMatch? rows 0xe7c7511f).map (·.descriptor.mnemonic) = some .bfc ∧
      (firstMatch? rows 0xeef11ae2).map (·.descriptor.mnemonic) = some .vsqrtS := by
  intro rows
  have reordered : rows.Perm table := by
    have swapped : rows.Perm (table.take 2 ++ table.drop 2) :=
      List.perm_append_comm.trans ((table.drop 2).reverse_perm.append_left _)
    rw [List.take_append_drop] at swapped
    exact swapped
  have ordered : [Row.clearing, Row.inserting].Sublist rows := List.sublist_append_right _ _
  have same := (table_unambiguous.2 rows reordered).mp ordered
  refine ⟨reordered, ordered, ?_, ?_⟩
  · rw [same]
    decide
  · rw [same]
    decide

end LaneLift.Guest
