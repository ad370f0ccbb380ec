import LaneLift.Proofs.Lane.Building
import LaneLift.Proofs.Lane.Concatenation

/-!
# What appended code adds to a function

Admissible code that is appended to a function adds one entry for each instruction. The entries
depend on the code only, up to the number of the first value.
-/

namespace LaneLift.Lane

def Code.entriesFrom : Nat → Code → List Entry
  | _, [] => []
  | count, instruction :: rest =>
      if instruction.makesValue then ⟨instruction, some count⟩ :: entriesFrom (count + 1) rest
      else ⟨instruction, none⟩ :: entriesFrom count rest

namespace Code

theorem entriesFrom_cons {instruction : Instruction} (makes : instruction.makesValue = true)
    (count : Nat) (rest : Code) :
    entriesFrom count (instruction :: rest) =
      ⟨instruction, some count⟩ :: entriesFrom (count + 1) rest :=
  if_pos makes

theorem entriesFrom_append (count : Nat) (first second : Code) :
    entriesFrom count (first ++ second) =
      entriesFrom count first ++ entriesFrom (count + first.valueCount) second := by
  induction first generalizing count with
  | nil => rfl
  | cons instruction rest induction =>
      rw [List.cons_append, entriesFrom, entriesFrom, induction, induction, valueCount, valueCount,
        List.countP_cons]
      cases instruction.makesValue with
      | false => rfl
      | true =>
          rw [if_pos rfl, if_pos rfl, if_pos rfl, List.cons_append, Nat.add_comm (rest.countP _),
            Nat.add_assoc]

theorem entriesFrom_rename (count values : Nat) (code : Code) :
    entriesFrom (count + values) (code.map (Instruction.rename (· + values))) =
      (entriesFrom count code).map (Entry.shift values) := by
  induction code generalizing count with
  | nil => rfl
  | cons instruction rest induction =>
      rw [List.map_cons, entriesFrom, entriesFrom, induction, Nat.add_right_comm, induction,
        Instruction.makesValue_rename]
      cases instruction.makesValue <;> rfl

theorem map_instruction_entriesFrom (count : Nat) (code : Code) :
    (entriesFrom count code).map Entry.instruction = code := by
  induction code generalizing count with
  | nil => rfl
  | cons instruction rest induction =>
      rw [entriesFrom]
      split <;> rw [List.map_cons, induction]

theorem instruction_of_mem_entriesFrom {count : Nat} {code : Code} {entry : Entry}
    (member : entry ∈ entriesFrom count code) : entry.instruction ∈ code := by
  rw [← map_instruction_entriesFrom count code]
  exact List.mem_map_of_mem member

end Code

namespace Function

variable {types made : List ValueType} {code : Code}

theorem knows_definitions (function : Function) :
    function.Knows (function.definitions.toList.map Definition.type) where
  valueCount := by rw [List.length_map, Array.length_toList, valueCount]
  typeOf? := by
    funext value
    rw [List.getElem?_map, Array.getElem?_toList, typeOf?]

theorem entries_foldl_build (makes : Code.Makes types code made) :
    ∀ {function : Function}, function.Knows types →
      (code.foldl build function).entries.toList =
        function.entries.toList ++ code.entriesFrom types.length := by
  induction makes with
  | nil => exact fun _ => (List.append_nil _).symm
  | @cons types made instruction rest admissible _ induction =>
      intro function knows
      have makesValue := admissible.isSome_resultType?
      have behind := knows.build instruction
      rw [List.foldl_cons, induction behind, Code.entriesFrom, ← makesValue, build,
        knows.typeOf?]
      cases instruction.resultType? (types[·]?) with
      | none => simp [push]
      | some type =>
          have count := knows.valueCount
          rw [valueCount] at count
          simp [push, count]

theorem entries_append (makes : Code.Makes [] code made) (function : Function) :
    (CodeBuilder.append function code).entries.toList =
      function.entries.toList ++
        (code.entriesFrom 0).map (Entry.shift function.valueCount) := by
  have knows := function.knows_definitions
  have behind := makes.behind (function.definitions.toList.map Definition.type)
  rw [List.append_nil, ← knows.valueCount] at behind
  have entries := entries_foldl_build behind knows
  rw [← knows.valueCount, List.foldl_map] at entries
  have shifted := Code.entriesFrom_rename 0 function.valueCount code
  rw [Nat.zero_add] at shifted
  rw [← shifted]
  exact entries

end Function

end LaneLift.Lane
