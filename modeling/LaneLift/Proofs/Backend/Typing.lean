import LaneLift.Backend.Check
import LaneLift.Proofs.Lane.Admissible

/-!
# Well-typed backend functions

The rules of the backend: what every instruction demands of the types of its operands, and
the type of the value that it makes. A function is well typed if all its entries keep to
the rules and use only values made before them, which the check of a function confirms.
-/

namespace LaneLift.Backend

open Lane (Opcode ScalarType)

/-- An instruction that keeps to the rules where values of these types are known, and the
type of the value that it makes. Banks are loaded and stored as bytes, a bitcast keeps the
width and is little-endian, lanes are lanes of their vector, and integers are extended to
strictly wider and reduced to strictly narrower ones. -/
inductive Instruction.Typed (typeOf? : Nat → Option MachineType) :
    Instruction → Option MachineType → Prop
  | load {bank : Nat} : bank < bankCount → typeOf? statePointer = some (.scalar .i64) →
      Typed typeOf? (.load (bankOffset bank)) (some .bytes)
  | store {value bank : Nat} : bank < bankCount → typeOf? statePointer = some (.scalar .i64) →
      typeOf? value = some .bytes → Typed typeOf? (.store value (bankOffset bank)) none
  | bitcast {own type : MachineType} {argument : Nat} :
      typeOf? argument = some own → own.width = type.width →
      Typed typeOf? (.bitcast .little type argument) (some type)
  | extractLane {element : ScalarType} {vector lane : Nat} :
      typeOf? vector = some (.vector element) → lane < element.lanesPerBank →
      Typed typeOf? (.extractLane vector lane) (some (.scalar element))
  | insertLane {element : ScalarType} {vector value lane : Nat} :
      typeOf? vector = some (.vector element) → typeOf? value = some (.scalar element) →
      lane < element.lanesPerBank →
      Typed typeOf? (.insertLane vector value lane) (some (.vector element))
  | iconst {type : ScalarType} {immediate : BitVec 64} : type.isInteger = true →
      Typed typeOf? (.iconst (.scalar type) immediate) (some (.scalar type))
  | f32const {pattern : BitVec 32} : Typed typeOf? (.f32const pattern) (some (.scalar .f32))
  | f64const {pattern : BitVec 64} : Typed typeOf? (.f64const pattern) (some (.scalar .f64))
  | sextend {own type : ScalarType} {argument : Nat} :
      typeOf? argument = some (.scalar own) → own.isInteger = true → type.isInteger = true →
      own.width < type.width →
      Typed typeOf? (.sextend (.scalar type) argument) (some (.scalar type))
  | uextend {own type : ScalarType} {argument : Nat} :
      typeOf? argument = some (.scalar own) → own.isInteger = true → type.isInteger = true →
      own.width < type.width →
      Typed typeOf? (.uextend (.scalar type) argument) (some (.scalar type))
  | ireduce {own type : ScalarType} {argument : Nat} :
      typeOf? argument = some (.scalar own) → own.isInteger = true → type.isInteger = true →
      type.width < own.width →
      Typed typeOf? (.ireduce (.scalar type) argument) (some (.scalar type))
  | unary {opcode : Opcode} {own : ScalarType} {argument : Nat} :
      opcode.isUnary = true → opcode.Suits own → typeOf? argument = some (.scalar own) →
      Typed typeOf? (.unary opcode argument) (some (.scalar own))
  | binary {opcode : Opcode} {own : ScalarType} {left right : Nat} :
      opcode.isBinary = true → opcode.Suits own → typeOf? left = some (.scalar own) →
      typeOf? right = some (.scalar own) →
      Typed typeOf? (.binary opcode left right) (some (.scalar own))
  | leave : Typed typeOf? .leave none

theorem Instruction.applies_of_suits {opcode : Opcode} {type : ScalarType}
    (suits : opcode.Suits type) : Instruction.applies opcode (.scalar type) = true := by
  rcases suits with ⟨integerOpcode, integer⟩ | ⟨floatOpcode, float⟩
  · cases opcode <;> first | rfl | exact integer | cases integerOpcode
  · cases opcode <;> first | rfl | exact float | cases floatOpcode

namespace Instruction.Typed

variable {typeOf? other : Nat → Option MachineType} {instruction : Instruction}
  {result : Option MachineType}

theorem exists_type (typed : instruction.Typed typeOf? result) :
    ∀ operand ∈ instruction.operands, ∃ type, typeOf? operand = some type := by
  cases typed with
  | load _ pointer => simpa [operands] using ⟨_, pointer⟩
  | store _ pointer value => simpa [operands] using ⟨⟨_, value⟩, ⟨_, pointer⟩⟩
  | bitcast argument _ => simpa [operands] using ⟨_, argument⟩
  | extractLane vector _ => simpa [operands] using ⟨_, vector⟩
  | insertLane vector value _ => simpa [operands] using ⟨⟨_, vector⟩, ⟨_, value⟩⟩
  | iconst _ | f32const | f64const | leave => simp [operands]
  | sextend argument _ _ _ | uextend argument _ _ _ | ireduce argument _ _ _ =>
      simpa [operands] using ⟨_, argument⟩
  | unary _ _ argument => simpa [operands] using ⟨_, argument⟩
  | binary _ _ left right => simpa [operands] using ⟨⟨_, left⟩, ⟨_, right⟩⟩

theorem of_keeps (typed : instruction.Typed typeOf? result)
    (keeps : ∀ operand ∈ instruction.operands, ∀ type,
      typeOf? operand = some type → other operand = some type) :
    instruction.Typed other result := by
  cases typed with
  | load inside pointer => exact .load inside (keeps _ (by simp [operands]) _ pointer)
  | store inside pointer value =>
      exact .store inside (keeps _ (by simp [operands]) _ pointer)
        (keeps _ (by simp [operands]) _ value)
  | bitcast argument width => exact .bitcast (keeps _ (by simp [operands]) _ argument) width
  | extractLane vector inside =>
      exact .extractLane (keeps _ (by simp [operands]) _ vector) inside
  | insertLane vector value inside =>
      exact .insertLane (keeps _ (by simp [operands]) _ vector)
        (keeps _ (by simp [operands]) _ value) inside
  | iconst integer => exact .iconst integer
  | f32const => exact .f32const
  | f64const => exact .f64const
  | sextend argument own integer wider =>
      exact .sextend (keeps _ (by simp [operands]) _ argument) own integer wider
  | uextend argument own integer wider =>
      exact .uextend (keeps _ (by simp [operands]) _ argument) own integer wider
  | ireduce argument own integer narrower =>
      exact .ireduce (keeps _ (by simp [operands]) _ argument) own integer narrower
  | unary isUnary suits argument =>
      exact .unary isUnary suits (keeps _ (by simp [operands]) _ argument)
  | binary isBinary suits left right =>
      exact .binary isBinary suits (keeps _ (by simp [operands]) _ left)
        (keeps _ (by simp [operands]) _ right)
  | leave => exact .leave

theorem accepts (typed : instruction.Typed typeOf? result) :
    instruction.accepts typeOf? = true := by
  cases typed with
  | load _ pointer => simp [Instruction.accepts, pointer]
  | store _ pointer value => simp [Instruction.accepts, pointer, value]
  | bitcast argument width => simp [Instruction.accepts, argument, width]
  | extractLane vector inside => simp [Instruction.accepts, vector, inside]
  | insertLane vector value inside => simp [Instruction.accepts, vector, value, inside]
  | iconst integer => simp [Instruction.accepts, MachineType.integer?, integer]
  | f32const | f64const | leave => rfl
  | sextend argument own integer wider | uextend argument own integer wider =>
      simp [Instruction.accepts, narrower, MachineType.integer?, argument, own, integer, wider]
  | ireduce argument own integer less =>
      simp [Instruction.accepts, narrower, MachineType.integer?, argument, own, integer, less]
  | unary isUnary suits argument =>
      simp [Instruction.accepts, argument, isUnary, applies_of_suits suits]
  | binary isBinary suits left right =>
      simp [Instruction.accepts, left, right, isBinary, applies_of_suits suits]

end Instruction.Typed

/-! ## Functions -/

def Entry.Typed (typeOf? : Nat → Option MachineType) (entry : Entry) : Prop :=
  ∃ type, entry.instruction.Typed typeOf? type ∧ entry.result.map typeOf? = type.map some

def results (entries : List Entry) : List Nat :=
  entries.filterMap Entry.result

theorem results_append (before behind : List Entry) :
    results (before ++ behind) = results before ++ results behind :=
  List.filterMap_append

theorem results_cons (entry : Entry) (rest : List Entry) :
    results (entry :: rest) = entry.result.toList ++ results rest := by
  rw [results, List.filterMap_cons]
  cases entry.result <;> rfl

namespace Function

/-- All entries keep to the rules; each uses the state pointer and what entries before it
have made; and values are numbered as they are made, each once. -/
structure WellTyped (function : Function) : Prop where
  statePointer : function.typeOf? Instruction.statePointer = some (.scalar .i64)
  typed : ∀ entry ∈ function.entries.toList, entry.Typed function.typeOf?
  defined : ∀ before entry after, function.entries.toList = before ++ entry :: after →
    ∀ operand ∈ entry.instruction.operands, operand ∈ Instruction.statePointer :: results before
  numbered : Instruction.statePointer :: results function.entries.toList =
    List.range function.definitions.size

variable {function after : Function} {instruction : Instruction} {type : MachineType}

theorem lt_size_of_typeOf? {number : Nat} (known : function.typeOf? number = some type) :
    number < function.definitions.size := by
  rw [typeOf?, Option.map_eq_some_iff] at known
  rcases known with ⟨definition, found, _⟩
  exact (Array.getElem?_eq_some_iff.mp found).1

namespace WellTyped

theorem empty : ({} : Function).WellTyped where
  statePointer := rfl
  typed entry member := by cases member
  defined before entry after split := by
    cases before <;> cases split
  numbered := rfl

theorem defined_of_typeOf? (wellTyped : function.WellTyped) {number : Nat}
    (known : function.typeOf? number = some type) :
    number ∈ Instruction.statePointer :: results function.entries.toList := by
  rw [wellTyped.numbered, List.mem_range]
  exact lt_size_of_typeOf? known

theorem push (wellTyped : function.WellTyped) {entry : Entry} {made : Option MachineType}
    (entries : after.entries.toList = function.entries.toList ++ [entry])
    (knows : ∀ {number type}, function.typeOf? number = some type →
      after.typeOf? number = some type)
    (typed : entry.instruction.Typed function.typeOf? made)
    (declared : entry.result.map after.typeOf? = made.map some)
    (numbered : List.range function.definitions.size ++ entry.result.toList =
      List.range after.definitions.size) : after.WellTyped where
  statePointer := knows wellTyped.statePointer
  typed other member := by
    rw [entries, List.mem_append, List.mem_singleton] at member
    rcases member with old | rfl
    · rcases wellTyped.typed other old with ⟨made, typed, declared⟩
      refine ⟨made, typed.of_keeps fun _ _ _ known => knows known, ?_⟩
      cases result : other.result with
      | none =>
          rw [result] at declared
          exact declared
      | some number =>
          rw [result] at declared
          cases made with
          | none => cases declared
          | some type => exact congrArg some (knows (Option.some.inj declared))
    · exact ⟨made, typed.of_keeps fun _ _ _ known => knows known, declared⟩
  defined before other behind split := by
    rw [entries] at split
    rcases behind.eq_nil_or_concat with rfl | ⟨init, last, rfl⟩
    · rcases List.append_inj' split rfl with ⟨same, isOther⟩
      cases isOther
      intro operand member
      rcases typed.exists_type operand member with ⟨type, known⟩
      rw [← same]
      exact wellTyped.defined_of_typeOf? known
    · rw [List.concat_eq_append, ← List.cons_append, ← List.append_assoc] at split
      exact wellTyped.defined before other init (List.append_inj' split rfl).1
  numbered := by
    rw [entries, results_append, results_cons, ← List.cons_append, wellTyped.numbered, ← numbered]
    exact congrArg _ (List.append_nil _)

/-- The check of a function confirms that it is well typed. -/
theorem checkEntries (wellTyped : function.WellTyped) :
    ∀ (rest before : List Entry), function.entries.toList = before ++ rest →
      function.checkEntries (1 + (results before).length) rest = true
  | [], _, _ => rfl
  | entry :: rest, before, split => by
      have made : Instruction.statePointer :: results before =
          List.range' 0 ((results before).length + 1) := by
        have all := wellTyped.numbered
        rw [split, results_append, ← List.cons_append, List.range_eq_range'] at all
        rcases List.range'_eq_append_iff.mp all.symm with ⟨count, _, isBefore, _⟩
        have length := congrArg List.length isBefore
        rw [List.length_cons, List.length_range'] at length
        rw [isBefore, length]
      rcases wellTyped.typed entry (by simp [split]) with ⟨type, typed, _⟩
      have known : entry.instruction.Typed
          (function.typesBefore (1 + (results before).length)) type := by
        apply typed.of_keeps
        intro operand member type isType
        have earlier := wellTyped.defined before entry rest split operand member
        rw [made, List.mem_range'_1, Nat.zero_add, Nat.add_comm] at earlier
        rw [typesBefore, if_pos earlier.2, isType]
      have behind := wellTyped.checkEntries rest (before ++ [entry]) (by simp [split])
      rw [results_append, results_cons, show results [] = [] from rfl, List.append_nil,
        List.length_append, ← Nat.add_assoc] at behind
      rw [Function.checkEntries, known.accepts, Bool.true_and]
      exact behind

theorem check (wellTyped : function.WellTyped) : function.check = true :=
  wellTyped.checkEntries function.entries.toList [] rfl

end WellTyped

end Function

end LaneLift.Backend
