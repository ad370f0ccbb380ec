import LaneLift.Lane.Run

/-!
# Functions by what was pushed

Any instruction can be pushed to a function, with any type declared for the value that it makes
or with none. What was pushed tells what the function consists of: the entries in order, each
result numbered by the results before it, and for every value the push that declared it.
-/

namespace LaneLift.Lane

/-- An instruction and the type declared for the value that it makes, if one is. Nothing ties the
two together. -/
structure Push where
  instruction : Instruction
  result : Option ValueType
  deriving DecidableEq, Repr

namespace Push

def valueCount (pushes : List Push) : Nat :=
  pushes.countP fun push => push.result.isSome

def entriesFrom : Nat → List Push → List Entry
  | _, [] => []
  | count, ⟨instruction, none⟩ :: rest => ⟨instruction, none⟩ :: entriesFrom count rest
  | count, ⟨instruction, some _⟩ :: rest =>
      ⟨instruction, some count⟩ :: entriesFrom (count + 1) rest

def definitionsFrom : Nat → List Push → List Definition
  | _, [] => []
  | position, ⟨_, none⟩ :: rest => definitionsFrom (position + 1) rest
  | position, ⟨_, some type⟩ :: rest => ⟨type, position⟩ :: definitionsFrom (position + 1) rest

@[simp] theorem valueCount_none (instruction : Instruction) (rest : List Push) :
    valueCount (⟨instruction, none⟩ :: rest) = valueCount rest :=
  List.countP_cons_of_neg Bool.false_ne_true

@[simp] theorem valueCount_some (instruction : Instruction) (type : ValueType)
    (rest : List Push) :
    valueCount (⟨instruction, some type⟩ :: rest) = valueCount rest + 1 :=
  List.countP_cons_of_pos rfl

theorem length_definitionsFrom (position : Nat) (pushes : List Push) :
    (definitionsFrom position pushes).length = valueCount pushes := by
  induction pushes generalizing position with
  | nil => rfl
  | cons push rest induction =>
      rcases push with ⟨instruction, _ | type⟩
      · rw [definitionsFrom, induction, valueCount_none]
      · rw [definitionsFrom, List.length_cons, induction, valueCount_some]

theorem entriesFrom_append (count : Nat) (first second : List Push) :
    entriesFrom count (first ++ second) =
      entriesFrom count first ++ entriesFrom (count + valueCount first) second := by
  induction first generalizing count with
  | nil => rfl
  | cons push rest induction =>
      rcases push with ⟨instruction, _ | type⟩
      · rw [List.cons_append, entriesFrom, induction, entriesFrom, valueCount_none,
          List.cons_append]
      · rw [List.cons_append, entriesFrom, induction, entriesFrom, valueCount_some,
          List.cons_append, Nat.add_assoc, Nat.add_comm 1]

theorem entriesFrom_take (count number : Nat) (pushes : List Push) :
    entriesFrom count (pushes.take number) = (entriesFrom count pushes).take number := by
  induction pushes generalizing count number with
  | nil => simp [entriesFrom]
  | cons push rest induction =>
      cases number with
      | zero => rfl
      | succ number =>
          rcases push with ⟨instruction, _ | type⟩ <;>
            rw [List.take_succ_cons, entriesFrom, induction, entriesFrom, List.take_succ_cons]

theorem getElem?_entriesFrom (count position : Nat) (pushes : List Push) :
    (entriesFrom count pushes)[position]? = pushes[position]?.map fun push =>
      ⟨push.instruction, push.result.map fun _ => count + valueCount (pushes.take position)⟩ := by
  induction pushes generalizing count position with
  | nil => rfl
  | cons push rest induction =>
      cases position with
      | zero => rcases push with ⟨instruction, _ | type⟩ <;> rfl
      | succ position =>
          rw [List.getElem?_cons_succ, List.take_succ_cons]
          rcases push with ⟨instruction, _ | type⟩
          · rw [entriesFrom, List.getElem?_cons_succ, induction, valueCount_none]
          · rw [entriesFrom, List.getElem?_cons_succ, induction, valueCount_some, Nat.add_assoc,
              Nat.add_comm 1]

theorem length_entriesFrom (count : Nat) (pushes : List Push) :
    (entriesFrom count pushes).length = pushes.length := by
  induction pushes generalizing count with
  | nil => rfl
  | cons push rest induction =>
      rcases push with ⟨instruction, _ | type⟩ <;>
        rw [entriesFrom, List.length_cons, induction, List.length_cons]

theorem filterMap_result_entriesFrom (count : Nat) (pushes : List Push) :
    (entriesFrom count pushes).filterMap Entry.result = List.range' count (valueCount pushes) := by
  induction pushes generalizing count with
  | nil => rfl
  | cons push rest induction =>
      rcases push with ⟨instruction, _ | type⟩
      · rw [entriesFrom, List.filterMap_cons, induction, valueCount_none]
      · rw [entriesFrom, List.filterMap_cons, induction, valueCount_some, List.range'_succ]

theorem getElem?_definitionsFrom {position index : Nat} {pushes : List Push} {push : Push}
    {type : ValueType} (pushed : pushes[index]? = some push) (declared : push.result = some type) :
    (definitionsFrom position pushes)[valueCount (pushes.take index)]? =
      some ⟨type, position + index⟩ := by
  induction pushes generalizing position index with
  | nil => cases pushed
  | cons first rest induction =>
      cases index with
      | zero =>
          cases pushed
          rcases push with ⟨instruction, _ | own⟩ <;> cases declared
          rfl
      | succ index =>
          rw [List.getElem?_cons_succ] at pushed
          have later : (definitionsFrom (position + 1) rest)[valueCount (rest.take index)]? =
              some ⟨type, position + (index + 1)⟩ := by
            rw [induction pushed, Nat.add_assoc, Nat.add_comm 1]
          rw [List.take_succ_cons]
          rcases first with ⟨instruction, _ | own⟩
          · rw [definitionsFrom, valueCount_none, later]
          · rw [definitionsFrom, valueCount_some, List.getElem?_cons_succ, later]

theorem exists_push_of_definitionsFrom {position value : Nat} {pushes : List Push}
    {definition : Definition}
    (defined : (definitionsFrom position pushes)[value]? = some definition) :
    ∃ index push, pushes[index]? = some push ∧ push.result = some definition.type ∧
      definition.position = position + index ∧ valueCount (pushes.take index) = value := by
  induction pushes generalizing position value with
  | nil => cases defined
  | cons first rest induction =>
      rcases first with ⟨instruction, _ | own⟩
      · rcases induction defined with ⟨index, push, pushed, declared, stands, numbered⟩
        refine ⟨index + 1, push, pushed, declared, by omega, ?_⟩
        rw [List.take_succ_cons, valueCount_none, numbered]
      · cases value with
        | zero =>
            cases defined
            exact ⟨0, _, rfl, rfl, rfl, rfl⟩
        | succ value =>
            rw [definitionsFrom, List.getElem?_cons_succ] at defined
            rcases induction defined with ⟨index, push, pushed, declared, stands, numbered⟩
            refine ⟨index + 1, push, pushed, declared, by omega, ?_⟩
            rw [List.take_succ_cons, valueCount_some, numbered]

end Push

namespace Function

/-! ## One push -/

section Push

variable (function : Function) (instruction : Instruction) (type : Option ValueType)

theorem entry_push (position : Nat) :
    (function.push instruction type).entries[position]? =
      if position = function.entries.size then
        some ⟨instruction, type.map fun _ => function.definitions.size⟩
      else
        function.entries[position]? := by
  cases type <;> simp [push, Array.getElem?_push]

theorem definition_push (value : Nat) :
    (function.push instruction type).definitions[value]? =
      if value = function.definitions.size then type.map fun type => ⟨type, function.entries.size⟩
      else function.definitions[value]? := by
  cases type <;> simp +contextual [push, Array.getElem?_push]

theorem code_push : (function.push instruction type).code = function.code ++ [instruction] := by
  cases type <;> simp [push, code]

theorem result?_push (position : Nat) :
    (function.push instruction type).result? position =
      if position = function.size then type.map fun _ => function.valueCount
      else function.result? position := by
  rw [result?, entry_push, apply_ite (Option.bind · Entry.result)]
  rfl

end Push

/-! ## Many pushes -/

def pushAll (function : Function) (pushes : List Push) : Function :=
  pushes.foldl (fun pushed push => pushed.push push.instruction push.result) function

def ofPushes (name : String) (pushes : List Push) : Function :=
  pushAll { name := name } pushes

theorem ofPushes_append (name : String) (before : List Push) (last : Push) :
    ofPushes name (before ++ [last]) =
      (ofPushes name before).push last.instruction last.result :=
  List.foldl_append

theorem name_pushAll (function : Function) (pushes : List Push) :
    (function.pushAll pushes).name = function.name := by
  induction pushes generalizing function with
  | nil => rfl
  | cons push rest induction =>
      rw [pushAll, List.foldl_cons, ← pushAll, induction]
      rcases push with ⟨instruction, _ | type⟩ <;> rfl

theorem entries_pushAll (function : Function) (pushes : List Push) :
    (function.pushAll pushes).entries.toList =
      function.entries.toList ++ Push.entriesFrom function.valueCount pushes := by
  induction pushes generalizing function with
  | nil => exact (List.append_nil _).symm
  | cons push rest induction =>
      rw [pushAll, List.foldl_cons, ← pushAll, induction]
      rcases push with ⟨instruction, _ | type⟩ <;> simp [push, Push.entriesFrom, valueCount]

theorem definitions_pushAll (function : Function) (pushes : List Push) :
    (function.pushAll pushes).definitions.toList =
      function.definitions.toList ++ Push.definitionsFrom function.size pushes := by
  induction pushes generalizing function with
  | nil => exact (List.append_nil _).symm
  | cons push rest induction =>
      rw [pushAll, List.foldl_cons, ← pushAll, induction]
      rcases push with ⟨instruction, _ | type⟩ <;> simp [push, Push.definitionsFrom, size]

section OfPushes

variable (name : String) (pushes : List Push)

theorem entries_ofPushes : (ofPushes name pushes).entries.toList = Push.entriesFrom 0 pushes :=
  entries_pushAll { name := name } pushes

theorem definitions_ofPushes :
    (ofPushes name pushes).definitions.toList = Push.definitionsFrom 0 pushes :=
  definitions_pushAll { name := name } pushes

theorem entry_ofPushes (position : Nat) :
    (ofPushes name pushes).entries[position]? = pushes[position]?.map fun push =>
      ⟨push.instruction, push.result.map fun _ => Push.valueCount (pushes.take position)⟩ := by
  rw [← Array.getElem?_toList, entries_ofPushes, Push.getElem?_entriesFrom]
  simp only [Nat.zero_add]

theorem result?_ofPushes (position : Nat) :
    (ofPushes name pushes).result? position =
      (pushes[position]?.bind Push.result).map fun _ => Push.valueCount (pushes.take position) := by
  rw [result?, entry_ofPushes]
  cases pushes[position]? <;> rfl

theorem size_ofPushes : (ofPushes name pushes).size = pushes.length := by
  rw [size, ← Array.length_toList, entries_ofPushes, Push.length_entriesFrom]

theorem valueCount_ofPushes : (ofPushes name pushes).valueCount = Push.valueCount pushes := by
  rw [valueCount, ← Array.length_toList, definitions_ofPushes, Push.length_definitionsFrom]

theorem code_ofPushes : (ofPushes name pushes).code = pushes.map Push.instruction := by
  apply List.ext_getElem?
  intro position
  rw [code, List.getElem?_map, Array.getElem?_toList, entry_ofPushes, Option.map_map,
    List.getElem?_map]
  rfl

/-- An instruction that is declared to make a value is the one that the value is known by. -/
theorem definition_of_result? {position value : Nat}
    (makes : (ofPushes name pushes).result? position = some value) :
    ∃ type, pushes[position]?.bind Push.result = some type ∧
      (ofPushes name pushes).definitions[value]? = some ⟨type, position⟩ := by
  rw [result?_ofPushes] at makes
  rcases Option.map_eq_some_iff.mp makes with ⟨type, declared, rfl⟩
  rcases Option.bind_eq_some_iff.mp declared with ⟨push, pushed, isDeclared⟩
  refine ⟨type, declared, ?_⟩
  rw [← Array.getElem?_toList, definitions_ofPushes,
    Push.getElem?_definitionsFrom pushed isDeclared, Nat.zero_add]

theorem result?_of_definition {value : Nat} {definition : Definition}
    (defined : (ofPushes name pushes).definitions[value]? = some definition) :
    (ofPushes name pushes).result? definition.position = some value := by
  rw [← Array.getElem?_toList, definitions_ofPushes] at defined
  rcases Push.exists_push_of_definitionsFrom defined with
    ⟨index, push, pushed, declared, stands, numbered⟩
  rw [stands, Nat.zero_add, result?_ofPushes, pushed, Option.bind_some, declared, Option.map_some,
    numbered]

end OfPushes

end Function

end LaneLift.Lane
