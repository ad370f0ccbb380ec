import LaneLift.Backend.Builder
import LaneLift.Proofs.Backend.Semantics

/-!
# Appending to a backend function

A stage is a function under construction together with what executing it leaves.
Appending instructions that make values leads to a later stage: all that was
known of the values before still holds, and the memory is as it was.
-/

namespace LaneLift.Backend

open Lane (ScalarType)

structure Stage where
  function : Function
  state : State

namespace Stage

variable {semantics : Semantics} {stage : Stage}

def Knows (stage : Stage) (number : Nat) (value : Value) : Prop :=
  stage.state.values number = some value ∧ stage.function.typeOf? number = some value.type

structure Extends (semantics : Semantics) (before after : Stage) : Prop where
  executes : ∃ appended,
    after.function.entries.toList = before.function.entries.toList ++ appended ∧
    appended.foldlM (Entry.execute? semantics) before.state = some after.state
  knows : ∀ {number value}, before.Knows number value → after.Knows number value
  memory : after.state.memory = before.state.memory

theorem Extends.refl (semantics : Semantics) (stage : Stage) : Extends semantics stage stage where
  executes := ⟨[], by simp, rfl⟩
  knows known := known
  memory := rfl

theorem Extends.trans {before middle after : Stage} (first : Extends semantics before middle)
    (second : Extends semantics middle after) : Extends semantics before after where
  executes := by
    rcases first.executes with ⟨left, leftEntries, leftRun⟩
    rcases second.executes with ⟨right, rightEntries, rightRun⟩
    refine ⟨left ++ right, ?_, ?_⟩
    · rw [rightEntries, leftEntries, List.append_assoc]
    · rw [List.foldlM_append, leftRun]
      exact rightRun
  knows known := second.knows (first.knows known)
  memory := second.memory.trans first.memory

theorem Extends.execute? {before after : Stage} (later : Extends semantics before after)
    {start : State} (run : before.function.execute? semantics start = some before.state) :
    after.function.execute? semantics start = some after.state := by
  rcases later.executes with ⟨appended, entries, continued⟩
  rw [Function.execute?] at run ⊢
  rw [entries, List.foldlM_append, run]
  exact continued

def Makes (semantics : Semantics) (stage : Stage) {α : Type} (action : Append α)
    (answer : Nat → α) (value : Value) : Prop :=
  ∃ number after, action stage.function = (answer number, after.function) ∧
    Extends semantics stage after ∧ after.Knows number value

theorem makes_pure {number : Nat} {value : Value} (known : stage.Knows number value) :
    stage.Makes semantics (pure number) id value :=
  ⟨number, stage, rfl, .refl semantics stage, known⟩

theorem Makes.bind {α : Type} {action : Append Nat} {next : Nat → Append α} {answer : Nat → α}
    {value made : Value} (first : stage.Makes semantics action id value)
    (second : ∀ number after, Extends semantics stage after → after.Knows number value →
      after.Makes semantics (next number) answer made) :
    stage.Makes semantics (action >>= next) answer made := by
  rcases first with ⟨number, middle, isMiddle, toMiddle, known⟩
  rcases second number middle toMiddle known with ⟨result, after, isAfter, toAfter, isResult⟩
  refine ⟨result, after, ?_, toMiddle.trans toAfter, isResult⟩
  change (match action stage.function with | (number, function) => next number function) = _
  rw [isMiddle]
  exact isAfter

theorem Makes.map {action : Append Nat} {value : Value}
    (makes : stage.Makes semantics action id value) :
    stage.Makes semantics (some <$> action) some value := by
  rcases makes with ⟨number, after, isAfter, toAfter, known⟩
  refine ⟨number, after, ?_, toAfter, known⟩
  change (match action stage.function with | (number, function) => (some number, function)) = _
  rw [isAfter]
  rfl

theorem makes_typeOf {α : Type} {number : Nat} {next : MachineType → Append α}
    {answer : Nat → α} {value made : Value} (known : stage.Knows number value)
    (makes : stage.Makes semantics (next value.type) answer made) :
    stage.Makes semantics (Append.typeOf number >>= next) answer made := by
  rcases makes with ⟨result, after, isAfter, toAfter, isResult⟩
  refine ⟨result, after, ?_, toAfter, isResult⟩
  change next ((stage.function.typeOf? number).getD .bytes) stage.function = _
  rw [known.2]
  exact isAfter

theorem makes_make {instruction : Instruction} {value : Value}
    (effect : semantics stage.state.values stage.state.memory instruction =
      some (.make value)) :
    stage.Makes semantics (Append.make instruction value.type) id value := by
  refine ⟨stage.function.definitions.size,
    ⟨_, stage.state.define stage.function.definitions.size value⟩, rfl, ?_, ?_⟩
  · constructor
    · refine ⟨[⟨instruction, some stage.function.definitions.size⟩], by simp, ?_⟩
      simp [Entry.execute?, effect]
    · intro number known isKnown
      rcases isKnown with ⟨isValue, isTyped⟩
      have earlier : number < stage.function.definitions.size := by
        rw [Function.typeOf?, Option.map_eq_some_iff] at isTyped
        rcases isTyped with ⟨definition, found, _⟩
        exact (Array.getElem?_eq_some_iff.mp found).1
      constructor
      · simp only [State.define, if_neg (Nat.ne_of_lt earlier)]
        exact isValue
      · simp only [Function.typeOf?, Array.getElem?_push, if_neg (Nat.ne_of_lt earlier)]
        exact isTyped
    · rfl
  · constructor
    · simp [State.define]
    · simp [Function.typeOf?]

/-! ## Reinterpreting and converting -/

variable [FloatArithmetic]

theorem makes_reinterpret (documented : Documented semantics) {number : Nat} {own : ScalarType}
    {content : Image} (known : stage.Knows number (.vector own content)) (lane : ScalarType) :
    stage.Makes semantics (Append.reinterpret (.vector lane) number) id
      (.vector lane content) := by
  apply makes_typeOf known
  by_cases same : own = lane
  · subst same
    rw [Value.type, if_pos rfl]
    exact makes_pure known
  · have other : MachineType.vector own ≠ .vector lane := by
      simpa using same
    rw [Value.type, if_neg other]
    exact makes_make (documented.bitcast known.1)

theorem makes_convert (documented : Documented semantics) {number : Nat} {own type : ScalarType}
    {pattern : BitVec own.width} (known : stage.Knows number (.scalar own pattern))
    (fits : own = type ∨ own.isInteger = true ∧ type.isInteger = true) :
    stage.Makes semantics (Append.convert (.scalar type) number) id
      (.scalar type (pattern.setWidth type.width)) := by
  apply makes_typeOf known
  by_cases same : own = type
  · subst same
    rw [Value.type, if_pos rfl, BitVec.setWidth_eq]
    exact makes_pure known
  · rcases fits with rfl | ⟨ownInteger, integer⟩
    · exact absurd rfl same
    have other : MachineType.scalar own ≠ .scalar type := by
      simpa using same
    rw [Value.type, if_neg other]
    simp only [MachineType.integer?, ownInteger, integer, if_true]
    by_cases narrower : type.width < own.width
    · rw [if_pos narrower]
      exact makes_make (documented.ireduce known.1 ownInteger integer narrower)
    · have wider := ScalarType.width_lt_of_ne ownInteger integer same narrower
      rw [if_neg narrower]
      exact makes_make (documented.uextend known.1 ownInteger integer wider)

end Stage

end LaneLift.Backend
