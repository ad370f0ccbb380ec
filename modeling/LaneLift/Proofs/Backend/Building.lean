import LaneLift.Backend.Builder
import LaneLift.Proofs.Backend.Typing

/-!
# Building well-typed functions

Appending to a backend function keeps it well typed and keeps the types of its values.
Every admissible instruction of lane code becomes instructions that keep to the rules, so
admissible code builds a well-typed function.
-/

namespace LaneLift.Backend

open Lane (CodeBuilder ScalarType ValueType)

namespace Function

def IsOpen (function : Function) : Prop :=
  ∀ entry ∈ function.entries.toList, entry.instruction ≠ .leave

theorem IsOpen.push {function : Function} (isOpen : function.IsOpen) {entry : Entry}
    (stays : entry.instruction ≠ .leave) (definitions : Array Definition) :
    IsOpen ⟨function.entries.push entry, definitions⟩ := by
  intro other member
  rw [Array.toList_push, List.mem_append, List.mem_singleton] at member
  rcases member with old | rfl
  · exact isOpen other old
  · exact stays

structure Extends (before after : Function) : Prop where
  knows : ∀ {number type}, before.typeOf? number = some type → after.typeOf? number = some type
  wellTyped : before.WellTyped → after.WellTyped
  isOpen : before.IsOpen → after.IsOpen

theorem Extends.refl (function : Function) : function.Extends function where
  knows known := known
  wellTyped wellTyped := wellTyped
  isOpen isOpen := isOpen

theorem Extends.trans {before middle after : Function} (first : before.Extends middle)
    (second : middle.Extends after) : before.Extends after where
  knows known := second.knows (first.knows known)
  wellTyped wellTyped := second.wellTyped (first.wellTyped wellTyped)
  isOpen isOpen := second.isOpen (first.isOpen isOpen)

variable {function : Function}

def Makes (function : Function) {α : Type} (action : Append α) (answer : Nat → α)
    (type : MachineType) : Prop :=
  ∃ number after, action function = (answer number, after) ∧ function.Extends after ∧
    after.typeOf? number = some type

theorem makes_pure {number : Nat} {type : MachineType}
    (known : function.typeOf? number = some type) : function.Makes (pure number) id type :=
  ⟨number, function, rfl, .refl function, known⟩

theorem Makes.bind {α : Type} {action : Append Nat} {next : Nat → Append α} {answer : Nat → α}
    {type made : MachineType} (first : function.Makes action id type)
    (second : ∀ number after, function.Extends after → after.typeOf? number = some type →
      after.Makes (next number) answer made) :
    function.Makes (action >>= next) answer made := by
  rcases first with ⟨number, middle, isMiddle, toMiddle, known⟩
  rcases second number middle toMiddle known with ⟨result, after, isAfter, toAfter, isResult⟩
  refine ⟨result, after, ?_, toMiddle.trans toAfter, isResult⟩
  change (match action function with | (number, function) => next number function) = _
  rw [isMiddle]
  exact isAfter

theorem Makes.map {action : Append Nat} {type : MachineType}
    (makes : function.Makes action id type) : function.Makes (some <$> action) some type := by
  rcases makes with ⟨number, after, isAfter, toAfter, known⟩
  refine ⟨number, after, ?_, toAfter, known⟩
  change (match action function with | (number, function) => (some number, function)) = _
  rw [isAfter]
  rfl

theorem makes_typeOf {α : Type} {number : Nat} {next : MachineType → Append α}
    {answer : Nat → α} {type made : MachineType} (known : function.typeOf? number = some type)
    (makes : function.Makes (next type) answer made) :
    function.Makes (Append.typeOf number >>= next) answer made := by
  rcases makes with ⟨result, after, isAfter, toAfter, isResult⟩
  refine ⟨result, after, ?_, toAfter, isResult⟩
  change next ((function.typeOf? number).getD .bytes) function = _
  rw [known]
  exact isAfter

theorem makes_make {instruction : Instruction} {type : MachineType}
    (typed : instruction.Typed function.typeOf? (some type)) :
    function.Makes (Append.make instruction type) id type := by
  refine ⟨function.definitions.size, _, rfl, ?_, ?_⟩
  · have knows : ∀ {number own}, function.typeOf? number = some own →
        Function.typeOf? ⟨function.entries.push ⟨instruction, some function.definitions.size⟩,
          function.definitions.push ⟨type, some instruction⟩⟩ number = some own := by
      intro number own known
      have earlier := Nat.ne_of_lt (lt_size_of_typeOf? known)
      simp only [typeOf?, Array.getElem?_push, if_neg earlier]
      exact known
    have stays : instruction ≠ .leave := by
      rintro rfl
      cases typed
    refine ⟨knows, fun wellTyped => wellTyped.push Array.toList_push knows typed ?_ ?_,
      fun isOpen => isOpen.push stays _⟩
    · simp [typeOf?]
    · rw [Array.size_push, List.range_succ]
      rfl
  · simp [typeOf?]

theorem WellTyped.perform (wellTyped : function.WellTyped) {instruction : Instruction}
    (typed : instruction.Typed function.typeOf? none) :
    WellTyped { function with entries := function.entries.push ⟨instruction, none⟩ } :=
  wellTyped.push Array.toList_push id typed rfl (List.append_nil _)

theorem extends_perform {instruction : Instruction}
    (typed : instruction.Typed function.typeOf? none) (stays : instruction ≠ .leave) :
    function.Extends { function with entries := function.entries.push ⟨instruction, none⟩ } where
  knows known := known
  wellTyped wellTyped := wellTyped.perform typed
  isOpen isOpen := isOpen.push stays _

theorem WellTyped.close (wellTyped : function.WellTyped) : function.close.WellTyped :=
  wellTyped.perform .leave

theorem IsOpen.close (isOpen : function.IsOpen) :
    (function.close.entries.toList.map Entry.instruction).getLast? = some .leave ∧
      (function.close.entries.toList.map Entry.instruction).count .leave = 1 := by
  have absent : Instruction.leave ∉ function.entries.toList.map Entry.instruction := by
    rw [List.mem_map]
    rintro ⟨entry, member, leaves⟩
    exact isOpen entry member leaves
  rw [Function.entries_close, List.map_append, List.count_append,
    List.count_eq_zero_of_not_mem absent]
  exact ⟨List.getLast?_concat, rfl⟩

/-! ## Reinterpreting and converting -/

theorem makes_reinterpret {number : Nat} {own : ScalarType}
    (known : function.typeOf? number = some (.vector own)) (lane : ScalarType) :
    function.Makes (Append.reinterpret (.vector lane) number) id (.vector lane) := by
  apply makes_typeOf known
  by_cases same : MachineType.vector own = .vector lane
  · rw [if_pos same]
    rw [same] at known
    exact makes_pure known
  · rw [if_neg same]
    exact makes_make (.bitcast known rfl)

theorem makes_convert {number : Nat} {own type : ScalarType}
    (known : function.typeOf? number = some (.scalar own))
    (fits : own = type ∨ own.isInteger = true ∧ type.isInteger = true) :
    function.Makes (Append.convert (.scalar type) number) id (.scalar type) := by
  apply makes_typeOf known
  by_cases same : own = type
  · subst same
    rw [if_pos rfl]
    exact makes_pure known
  · rcases fits with rfl | ⟨ownInteger, integer⟩
    · exact absurd rfl same
    have other : MachineType.scalar own ≠ .scalar type := by
      simpa using same
    rw [if_neg other]
    simp only [MachineType.integer?, ownInteger, integer, if_true]
    by_cases narrower : type.width < own.width
    · rw [if_pos narrower]
      exact makes_make (.ireduce known ownInteger integer narrower)
    · rw [if_neg narrower]
      exact makes_make (.uextend known ownInteger integer
        (ScalarType.width_lt_of_ne ownInteger integer same narrower))

/-! ## Instructions of lane code -/

/-- An image that is known goes by bytes, so it is stored as it is. -/
theorem compile_setBank {names : Nat → Nat} {bank image : Nat}
    (known : function.typeOf? (names image) = some .bytes) :
    Append.compile names (.setBank bank image) function =
      (none, { function with
        entries := function.entries.push
          ⟨.store (names image) (Instruction.bankOffset bank), none⟩ }) := by
  have isBytes : (function.typeOf? (names image)).getD .bytes = .bytes := by
    rw [known]
    rfl
  simp only [Append.compile, Append.reinterpret, Append.typeOf, Append.perform, bind,
    StateT.bind, isBytes, if_true]
  rfl

def Compiles (function : Function) (names : Nat → Nat) (instruction : Lane.Instruction) :
    Option ValueType → Prop
  | some type => function.Makes (Append.compile names instruction) some (.ofValueType type)
  | none => ∃ after, Append.compile names instruction function = (none, after) ∧
      function.Extends after

theorem compiles {names : Nat → Nat} {types : List ValueType} {instruction : Lane.Instruction}
    (pointer : function.typeOf? Instruction.statePointer = some (.scalar .i64))
    (named : ∀ {value type}, types[value]? = some type →
      function.typeOf? (names value) = some (.ofValueType type))
    (admissible : instruction.Admissible types) :
    function.Compiles names instruction (instruction.resultType? (types[·]?)) := by
  cases admissible with
  | getBank inside => exact (makes_make (.load inside pointer)).map
  | setBank inside image =>
      exact ⟨_, compile_setBank (named image),
        extends_perform (.store inside pointer (named image)) nofun⟩
  | @extractLane type _ _ image inside =>
      apply Makes.bind (makes_reinterpret (named image) type)
      intro vector after _ isVector
      exact (makes_make (.extractLane isVector inside)).map
  | @insertLane type _ _ _ _ image value inside fits =>
      apply Makes.bind (makes_convert (named value) fits)
      intro converted first toFirst isConverted
      apply Makes.bind (makes_reinterpret (toFirst.knows (named image)) type)
      intro vector second toSecond isVector
      apply Makes.bind
        (makes_make (.insertLane isVector (toSecond.knows isConverted) inside))
      intro inserted third _ isInserted
      exact (makes_reinterpret isInserted .i8).map
  | iconst integer => exact (makes_make (.iconst integer)).map
  | f32const => exact (makes_make .f32const).map
  | f64const => exact (makes_make .f64const).map
  | extend isExtension argument own integer wider =>
      rcases isExtension with rfl | rfl
      · exact (makes_make (.sextend (named argument) own integer wider)).map
      · exact (makes_make (.uextend (named argument) own integer wider)).map
  | unary isUnary argument suits =>
      rw [Lane.Instruction.resultType?, argument]
      exact makes_typeOf (named argument) (makes_make (.unary isUnary suits (named argument))).map
  | binary isBinary left right suits =>
      rw [Lane.Instruction.resultType?, left]
      exact makes_typeOf (named left)
        (makes_make (.binary isBinary suits (named left) (named right))).map

end Function

/-! ## Builders -/

namespace Builder

theorem number_push_of_lt (builder : Builder) (function : Function) (number : Nat) {value : Nat}
    (earlier : value < builder.numbers.size) :
    Builder.number ⟨function, builder.numbers.push number⟩ value = builder.number value := by
  simp [Builder.number, Array.getElem?_push, Nat.ne_of_lt earlier]

theorem number_push_size (builder : Builder) (function : Function) (number : Nat) :
    Builder.number ⟨function, builder.numbers.push number⟩ builder.numbers.size = number := by
  simp [Builder.number]

structure Knows (builder : Builder) (types : List ValueType) : Prop where
  count : builder.numbers.size = types.length
  named : ∀ {value type}, types[value]? = some type →
    builder.function.typeOf? (builder.number value) = some (.ofValueType type)
  wellTyped : builder.function.WellTyped
  isOpen : builder.function.IsOpen

variable {builder : Builder} {types : List ValueType}

theorem Knows.empty : ({} : Builder).Knows [] where
  count := rfl
  named found := by cases found
  wellTyped := .empty
  isOpen entry member := by cases member

theorem Knows.build (knows : builder.Knows types) {instruction : Lane.Instruction}
    (admissible : instruction.Admissible types) :
    (builder.build instruction).Knows
      (types ++ (instruction.resultType? (types[·]?)).toList) := by
  have compiled := Function.compiles knows.wellTyped.statePointer knows.named admissible
  cases made : instruction.resultType? (types[·]?) with
  | none =>
      rw [made] at compiled
      rcases compiled with ⟨after, isAfter, toAfter⟩
      have built : builder.build instruction = { builder with function := after } := by
        rw [Builder.build, StateT.run, isAfter]
      rw [built, Option.toList_none, List.append_nil]
      exact {
        count := knows.count
        named := fun found => toAfter.knows (knows.named found)
        wellTyped := toAfter.wellTyped knows.wellTyped
        isOpen := toAfter.isOpen knows.isOpen }
  | some type =>
      rw [made] at compiled
      rcases compiled with ⟨number, after, isAfter, toAfter, known⟩
      have built : builder.build instruction = ⟨after, builder.numbers.push number⟩ := by
        rw [Builder.build, StateT.run, isAfter]
      rw [built, Option.toList_some]
      exact {
        count := by rw [Array.size_push, List.length_append, knows.count, List.length_singleton]
        named := by
          intro value own found
          rw [List.getElem?_append, ← knows.count] at found
          by_cases earlier : value < builder.numbers.size
          · rw [if_pos earlier] at found
            rw [number_push_of_lt builder after number earlier]
            exact toAfter.knows (knows.named found)
          · rw [if_neg earlier, List.getElem?_singleton] at found
            split at found
            · have last : value = builder.numbers.size := by omega
              cases found
              rw [last, number_push_size]
              exact known
            · cases found
        wellTyped := toAfter.wellTyped knows.wellTyped
        isOpen := toAfter.isOpen knows.isOpen }

theorem Knows.foldl_build {code : Lane.Code} {made : List ValueType}
    (makes : Lane.Code.Makes types code made) :
    ∀ {builder : Builder}, builder.Knows types →
      (code.foldl Builder.build builder).Knows (types ++ made) := by
  induction makes with
  | nil =>
      intro builder knows
      rwa [List.append_nil]
  | cons admissible _ induction =>
      intro builder knows
      rw [← List.append_assoc]
      exact induction (knows.build admissible)

/-- Pieces of code that are admissible on their own build a well-typed function. -/
theorem Knows.appendAll :
    ∀ (segments : List Lane.Code) {builder : Builder} {types : List ValueType},
      (∀ segment ∈ segments, ∃ made, Lane.Code.Makes [] segment made) → builder.Knows types →
        ∃ made, (CodeBuilder.appendAll builder segments).Knows (types ++ made)
  | [], _, types, _, knows => ⟨[], by rwa [List.append_nil]⟩
  | segment :: rest, builder, types, admissible, knows => by
      rcases admissible segment List.mem_cons_self with ⟨made, makes⟩
      have behind := makes.behind types
      rw [List.append_nil] at behind
      -- A piece counts its values from zero; they come behind those made before it.
      have appended : CodeBuilder.append builder segment =
          (segment.map (Lane.Instruction.rename (· + types.length))).foldl
            Builder.build builder := by
        rw [List.foldl_map, ← knows.count]
        rfl
      have knowsSegment := knows.foldl_build behind
      rw [← appended] at knowsSegment
      rcases appendAll rest
        (fun other member => admissible other (List.mem_cons_of_mem segment member))
        knowsSegment with ⟨later, knowsAll⟩
      rw [List.append_assoc] at knowsAll
      exact ⟨made ++ later, knowsAll⟩

end Builder

end LaneLift.Backend
