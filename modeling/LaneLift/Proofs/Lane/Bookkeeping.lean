import LaneLift.Proofs.Lane.Pushing
import Mathlib.Algebra.BigOperators.Group.List.Basic
import Mathlib.Algebra.GroupWithZero.Nat
import Mathlib.Data.List.DropRight

/-!
# Bookkeeping of functions

A function can be pushed to, cleared and renamed in any order. Its values are numbered in the
order of the instructions that are declared to make one, every value is linked with its
instruction and back, and nothing of what was pushed before a clear is left.

The same holds of a function that is kept in tables, with the results in a table of their own.
-/

namespace LaneLift.Lane

/-! ## Edits -/

inductive Edit where
  | push (pushed : Push)
  | clear
  | rename (name : String)
  deriving DecidableEq, Repr

namespace Edit

def push? : Edit → Option Push
  | .push pushed => some pushed
  | .clear | .rename _ => none

def name? : Edit → Option String
  | .rename name => some name
  | .push _ | .clear => none

def pushes (edits : List Edit) : List Push :=
  (edits.rtakeWhile (· ≠ .clear)).filterMap push?

def lastName (name : String) (edits : List Edit) : String :=
  (edits.filterMap name?).getLastD name

theorem pushes_append_push (edits : List Edit) (pushed : Push) :
    pushes (edits ++ [.push pushed]) = pushes edits ++ [pushed] := by
  rw [pushes, List.rtakeWhile_concat_pos _ _ _ (by simp), List.filterMap_append]
  rfl

theorem pushes_append_clear (edits : List Edit) : pushes (edits ++ [.clear]) = [] := by
  rw [pushes, List.rtakeWhile_concat_neg _ _ _ (by simp)]
  rfl

theorem pushes_append_rename (edits : List Edit) (name : String) :
    pushes (edits ++ [.rename name]) = pushes edits := by
  rw [pushes, List.rtakeWhile_concat_pos _ _ _ (by simp), List.filterMap_append]
  exact List.append_nil _

theorem lastName_append (name : String) (edits : List Edit) (edit : Edit) :
    lastName name (edits ++ [edit]) = edit.name?.getD (lastName name edits) := by
  cases edit <;> simp [lastName, name?]

end Edit

namespace Function

def edit (function : Function) : Edit → Function
  | .push pushed => function.push pushed.instruction pushed.result
  | .clear => function.clear
  | .rename name => function.rename name

def editAll (function : Function) (edits : List Edit) : Function :=
  edits.foldl edit function

theorem editAll_append (function : Function) (before : List Edit) (last : Edit) :
    function.editAll (before ++ [last]) = (function.editAll before).edit last :=
  List.foldl_append

theorem rename_ofPushes (name other : String) (pushes : List Push) :
    (ofPushes name pushes).rename other = ofPushes other pushes := by
  induction pushes using List.reverseRecOn with
  | nil => rfl
  | append_singleton before last induction =>
      rw [ofPushes_append, ofPushes_append, ← induction]
      cases last.result <;> rfl

/-- However a function was edited, it is a new function that received what was pushed behind the
last clear. -/
theorem editAll_eq_ofPushes (name : String) (edits : List Edit) :
    editAll { name := name } edits = ofPushes (Edit.lastName name edits) (Edit.pushes edits) := by
  induction edits using List.reverseRecOn with
  | nil => rfl
  | append_singleton before last induction =>
      rw [editAll_append, induction, Edit.lastName_append]
      cases last with
      | push pushed =>
          rw [Edit.pushes_append_push, ofPushes_append]
          rfl
      | clear =>
          rw [Edit.pushes_append_clear]
          exact congrArg (fun name => ({ name := name } : Function)) (name_pushAll _ _)
      | rename other =>
          rw [Edit.pushes_append_rename]
          exact rename_ofPushes _ other _

/-! ## Counts -/

theorem sum_count (function : Function) :
    (Opcode.all.map function.count).sum = function.size := by
  have total : ∀ entries : List Entry, (Opcode.all.map fun opcode =>
      entries.countP fun entry => entry.instruction.opcode = opcode).sum = entries.length := by
    intro entries
    induction entries with
    | nil => rfl
    | cons entry rest induction =>
        have once : (Opcode.all.map fun opcode =>
            if entry.instruction.opcode = opcode then 1 else 0).sum = 1 := by
          cases entry.instruction.opcode <;> rfl
        simp only [List.countP_cons, decide_eq_true_eq, List.sum_map_add, once, induction,
          List.length_cons]
  exact (total _).trans function.entries.length_toList

/-! ## Records -/

structure Records (function : Function) (pushes : List Push) : Prop where
  code : function.code = pushes.map Push.instruction
  results : ∀ position, function.result? position =
    (pushes[position]?.bind Push.result).map fun _ => Push.valueCount (pushes.take position)
  numbered : function.entries.toList.filterMap Entry.result = List.range function.valueCount
  /-- An instruction with a result is the one that its result is known by. -/
  known : ∀ position value, function.result? position = some value →
    function.definedAt? value = some position ∧
    function.typeOf? value = pushes[position]?.bind Push.result
  /-- Every value is the result of the instruction that it is known by. -/
  made : ∀ value < function.valueCount, ∃ position,
    function.definedAt? value = some position ∧ function.result? position = some value
  counted : (Opcode.all.map function.count).sum = function.size

theorem records_ofPushes (name : String) (pushes : List Push) :
    (ofPushes name pushes).Records pushes where
  code := code_ofPushes name pushes
  results := result?_ofPushes name pushes
  numbered := by
    rw [entries_ofPushes, Push.filterMap_result_entriesFrom, valueCount_ofPushes,
      List.range_eq_range']
  known position value makes := by
    rcases definition_of_result? name pushes makes with ⟨type, declared, isDefined⟩
    rw [definedAt?, typeOf?, isDefined, declared]
    exact ⟨rfl, rfl⟩
  made value inside := by
    have isDefined := Array.getElem?_eq_getElem inside
    refine ⟨_, ?_, result?_of_definition name pushes isDefined⟩
    rw [definedAt?, isDefined, Option.map_some]
  counted := sum_count _

end Function

/-! ## Tables -/

structure DenseTable (α : Type) where
  Table : Type
  new : Table
  push : Table → α → Nat × Table
  clear : Table → Table
  entries : Table → List α

/-- Entries are numbered from zero in the order in which they are pushed. -/
structure DenseTable.Documented {α : Type} (kind : DenseTable α) : Prop where
  new : kind.entries kind.new = []
  number : ∀ table entry, (kind.push table entry).1 = (kind.entries table).length
  push : ∀ table entry, kind.entries (kind.push table entry).2 = kind.entries table ++ [entry]
  clear : ∀ table, kind.entries (kind.clear table) = []

structure SparseTable where
  Table : Type
  new : Table
  get : Table → Nat → Option Nat
  set : Table → Nat → Option Nat → Table
  clear : Table → Table

/-- Every number is filled from the beginning, with no result. -/
structure SparseTable.Documented (kind : SparseTable) : Prop where
  new : ∀ number, kind.get kind.new number = none
  set : ∀ table number result other,
    kind.get (kind.set table number result) other =
      if other = number then result else kind.get table other
  clear : ∀ table number, kind.get (kind.clear table) number = none

structure Storage where
  instructions : DenseTable Instruction
  results : SparseTable
  values : DenseTable Definition

structure Storage.Documented (storage : Storage) : Prop where
  instructions : storage.instructions.Documented
  results : storage.results.Documented
  values : storage.values.Documented

structure Tables (storage : Storage) where
  name : String
  instructions : storage.instructions.Table
  results : storage.results.Table
  values : storage.values.Table

namespace Tables

variable {storage : Storage}

def new (name : String) : Tables storage where
  name := name
  instructions := storage.instructions.new
  results := storage.results.new
  values := storage.values.new

/-- Append an instruction. The answer is its number and, with a type, the number of its value. -/
def push (tables : Tables storage) (instruction : Instruction) (result : Option ValueType) :
    (Nat × Option Nat) × Tables storage :=
  let (position, instructions) := storage.instructions.push tables.instructions instruction
  match result with
  | none =>
      ((position, none),
        { tables with
          instructions := instructions
          results := storage.results.set tables.results position none })
  | some type =>
      let (value, values) := storage.values.push tables.values ⟨type, position⟩
      ((position, some value),
        { tables with
          instructions := instructions
          results := storage.results.set tables.results position (some value)
          values := values })

def edit (tables : Tables storage) : Edit → Tables storage
  | .push pushed => (tables.push pushed.instruction pushed.result).2
  | .clear =>
      { tables with
        instructions := storage.instructions.clear tables.instructions
        results := storage.results.clear tables.results
        values := storage.values.clear tables.values }
  | .rename name => { tables with name := name }

def editAll (tables : Tables storage) (edits : List Edit) : Tables storage :=
  edits.foldl edit tables

theorem get_results_push (documented : storage.Documented) (tables : Tables storage)
    (instruction : Instruction) (result : Option ValueType) (position : Nat) :
    storage.results.get (tables.push instruction result).2.results position =
      if position = (tables.push instruction result).1.1 then (tables.push instruction result).1.2
      else storage.results.get tables.results position := by
  cases result <;> exact documented.results.set tables.results _ _ position

def function (tables : Tables storage) : Function where
  name := tables.name
  entries := ((storage.instructions.entries tables.instructions).mapIdx fun position instruction =>
    ⟨instruction, storage.results.get tables.results position⟩).toArray
  definitions := (storage.values.entries tables.values).toArray

structure Answers (tables : Tables storage) (function : Function) : Prop where
  name : tables.name = function.name
  instructions : storage.instructions.entries tables.instructions = function.code
  results : ∀ position, storage.results.get tables.results position = function.result? position
  values : storage.values.entries tables.values = function.definitions.toList

namespace Answers

variable {tables : Tables storage} {function : Function}

theorem function_eq (answers : tables.Answers function) : tables.function = function := by
  have sameEntries : tables.function.entries = function.entries := by
    apply Array.ext_getElem?
    intro position
    rw [Tables.function, List.getElem?_toArray, List.getElem?_mapIdx, answers.instructions,
      answers.results, Function.code, List.getElem?_map, Array.getElem?_toList]
    simp only [Function.result?]
    cases function.entries[position]? <;> rfl
  have sameValues : tables.function.definitions = function.definitions := by
    rw [Tables.function, answers.values, Array.toArray_toList]
  rw [Tables.function, Function.mk.injEq]
  exact ⟨answers.name, sameEntries, sameValues⟩

theorem new (documented : storage.Documented) (name : String) :
    (Tables.new name : Tables storage).Answers { name := name } where
  name := rfl
  instructions := documented.instructions.new
  results := documented.results.new
  values := documented.values.new

theorem numbers (documented : storage.Documented) (answers : tables.Answers function)
    (instruction : Instruction) (result : Option ValueType) :
    (tables.push instruction result).1 =
      (function.size, result.map fun _ => function.valueCount) := by
  have position : ((storage.instructions.push tables.instructions instruction).1) =
      function.size := by
    rw [documented.instructions.number, answers.instructions, Function.code, List.length_map,
      Array.length_toList, Function.size]
  cases result with
  | none =>
      rw [← position]
      rfl
  | some type =>
      have value := documented.values.number tables.values
        ⟨type, (storage.instructions.push tables.instructions instruction).1⟩
      rw [answers.values, Array.length_toList] at value
      rw [← position, Option.map_some, Function.valueCount, ← value]
      rfl

theorem push (documented : storage.Documented) (answers : tables.Answers function)
    (instruction : Instruction) (result : Option ValueType) :
    (tables.push instruction result).2.Answers (function.push instruction result) := by
  have numbers := answers.numbers documented instruction result
  constructor
  · cases result <;> exact answers.name
  · rw [Function.code_push, ← answers.instructions, ← documented.instructions.push]
    cases result <;> rfl
  · intro position
    rw [get_results_push documented, numbers, answers.results, Function.result?_push]
  · cases result with
    | none => exact answers.values
    | some type =>
        have position : (storage.instructions.push tables.instructions instruction).1 =
          function.size := congrArg Prod.fst numbers
        rw [Function.push, Array.toList_push, ← answers.values]
        refine (documented.values.push tables.values _).trans ?_
        rw [position, Function.size]

theorem edit (documented : storage.Documented) (answers : tables.Answers function) (edit : Edit) :
    (tables.edit edit).Answers (function.edit edit) := by
  cases edit with
  | push pushed => exact answers.push documented pushed.instruction pushed.result
  | clear =>
      exact ⟨answers.name, documented.instructions.clear _, documented.results.clear _,
        documented.values.clear _⟩
  | rename name => exact ⟨rfl, answers.instructions, answers.results, answers.values⟩

theorem editAll (documented : storage.Documented) (answers : tables.Answers function)
    (edits : List Edit) : (tables.editAll edits).Answers (function.editAll edits) := by
  induction edits generalizing tables function with
  | nil => exact answers
  | cons first rest induction => exact induction (answers.edit documented first)

end Answers

end Tables

/-- Whatever is done to a function, it tells of what was pushed behind the last clear, and is the
same as a new function that received only that. Tables answer the same whenever their kinds
behave as documented, and so do new tables; a push answers the numbers that come next. -/
theorem Function.editAll_records {storage : Storage} (documented : storage.Documented)
    (name : String) (edits : List Edit) :
    let function := editAll { name := name } edits
    let pushes := Edit.pushes edits
    let tables : Tables storage := (Tables.new name).editAll edits
    let fresh : Tables storage :=
      (Tables.new (Edit.lastName name edits)).editAll (pushes.map .push)
    function.Records pushes ∧
    function = ofPushes (Edit.lastName name edits) pushes ∧
    (tables.Answers function ∧ tables.function = function) ∧
    (fresh.Answers function ∧ fresh.function = function) ∧
    ∀ instruction result, (tables.push instruction result).1 =
      (pushes.length, result.map fun _ => Push.valueCount pushes) := by
  intro function pushes tables fresh
  have isNew : function = ofPushes (Edit.lastName name edits) pushes :=
    editAll_eq_ofPushes name edits
  have same : editAll { name := Edit.lastName name edits } (pushes.map .push) = function := by
    rw [isNew, editAll, List.foldl_map]
    rfl
  have answers : tables.Answers function :=
    (Tables.Answers.new documented name).editAll documented edits
  have freshAnswers : fresh.Answers function := by
    rw [← same]
    exact (Tables.Answers.new documented _).editAll documented _
  refine ⟨?_, isNew, ⟨answers, answers.function_eq⟩, ⟨freshAnswers, freshAnswers.function_eq⟩, ?_⟩
  · rw [isNew]
    exact records_ofPushes _ pushes
  · intro instruction result
    rw [answers.numbers documented, isNew, size_ofPushes, valueCount_ofPushes]

/-! ## Growing arrays -/

def DenseTable.array (α : Type) : DenseTable α where
  Table := Array α
  new := #[]
  push table entry := (table.size, table.push entry)
  clear _ := #[]
  entries := Array.toList

def setGrowing (results : Array (Option Nat)) (number : Nat) (result : Option Nat) :
    Array (Option Nat) :=
  (results ++ Array.replicate (number + 1 - results.size) none).setIfInBounds number result

def SparseTable.array : SparseTable where
  Table := Array (Option Nat)
  new := #[]
  get results number := results[number]?.join
  set := setGrowing
  clear _ := #[]

def Storage.arrays : Storage where
  instructions := .array Instruction
  results := .array
  values := .array Definition

theorem DenseTable.documented_array (α : Type) : (DenseTable.array α).Documented where
  new := rfl
  number table _ := table.length_toList.symm
  push _ _ := Array.toList_push
  clear _ := rfl

theorem join_getElem?_setGrowing (results : Array (Option Nat)) (number : Nat)
    (result : Option Nat) (other : Nat) :
    (setGrowing results number result)[other]?.join =
      if other = number then result else results[other]?.join := by
  have reached : number < results.size + (number + 1 - results.size) := by omega
  rw [setGrowing, Array.getElem?_setIfInBounds, Array.size_append, Array.size_replicate,
    if_pos reached]
  by_cases same : other = number
  · rw [if_pos same.symm, if_pos same, Option.join_some]
  · rw [if_neg (Ne.symm same), if_neg same, Array.getElem?_append, Array.getElem?_replicate]
    by_cases inside : other < results.size
    · rw [if_pos inside]
    · rw [if_neg inside, Array.getElem?_eq_none (Nat.le_of_not_lt inside)]
      split <;> rfl

theorem SparseTable.documented_array : SparseTable.array.Documented where
  new _ := rfl
  set := join_getElem?_setGrowing
  clear _ _ := rfl

theorem Storage.documented_arrays : Storage.arrays.Documented where
  instructions := DenseTable.documented_array Instruction
  results := SparseTable.documented_array
  values := DenseTable.documented_array Definition

/-- The first instruction behind a clear makes no value, though the one that stood there before
did. -/
theorem Function.editAll_records_cleared :
    let read : Push := ⟨.getBank 1, some .image⟩
    let write : Push := ⟨.setBank 2 0, none⟩
    let edits : List Edit := [.push read, .push read, .clear, .rename "b", .push write, .push read]
    let tables : Tables .arrays := (Tables.new "a").editAll edits
    Storage.arrays.Documented ∧
    tables.function = ofPushes "b" [write, read] ∧
    SparseTable.array.get tables.results 0 = none ∧
    SparseTable.array.get tables.results 1 = some 0 ∧
    (tables.push (.getBank 3) (some .image)).1 = (2, some 1) := by
  intro read write edits tables
  rcases editAll_records Storage.documented_arrays "a" edits with
    ⟨_, isNew, ⟨answers, same⟩, _, numbers⟩
  refine ⟨Storage.documented_arrays, same.trans isNew, ?_, ?_, numbers _ _⟩
  · exact (answers.results 0).trans (by rw [isNew]; rfl)
  · exact (answers.results 1).trans (by rw [isNew]; rfl)

end LaneLift.Lane
