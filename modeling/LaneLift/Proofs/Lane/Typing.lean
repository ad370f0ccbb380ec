import LaneLift.Proofs.Lane.Admissible
import LaneLift.Proofs.Lane.Progress
import LaneLift.Proofs.Lane.Pushing

/-!
# Well-typed functions

A function is well typed if every instruction uses only values made before it, each
by its declared type. Such a function runs without an error over any registers, and
every value that it makes has the type declared for it.
-/

namespace LaneLift.Lane

inductive Instruction.Typed (typeOf? : Nat → Option ValueType) : Instruction → Prop
  | getBank {bank : Nat} : bank < bankCount → Typed typeOf? (.getBank bank)
  | setBank {bank image : Nat} :
      bank < bankCount → typeOf? image = some .image → Typed typeOf? (.setBank bank image)
  | extractLane {type : ScalarType} {image lane : Nat} :
      typeOf? image = some .image → lane < type.lanesPerBank →
      Typed typeOf? (.extractLane (.scalar type) image lane)
  | insertLane {type own : ScalarType} {image value lane : Nat} :
      typeOf? image = some .image → typeOf? value = some (.scalar own) →
      lane < type.lanesPerBank → Typed typeOf? (.insertLane (.scalar type) image value lane)
  | iconst {type : ScalarType} {immediate : BitVec 64} :
      type.isInteger = true → Typed typeOf? (.iconst (.scalar type) immediate)
  | f32const {pattern : BitVec 32} : Typed typeOf? (.f32const pattern)
  | f64const {pattern : BitVec 64} : Typed typeOf? (.f64const pattern)
  | extend {opcode : Opcode} {type own : ScalarType} {argument : Nat} :
      opcode = .sextend ∨ opcode = .uextend → typeOf? argument = some (.scalar own) →
      own.isInteger = true → Typed typeOf? (.extend opcode (.scalar type) argument)
  | unary {opcode : Opcode} {own : ScalarType} {argument : Nat} :
      opcode.isUnary = true → typeOf? argument = some (.scalar own) → opcode.Suits own →
      Typed typeOf? (.unary opcode argument)
  | binary {opcode : Opcode} {own : ScalarType} {left right : Nat} :
      opcode.isBinary = true → typeOf? left = some (.scalar own) →
      typeOf? right = some (.scalar own) → opcode.Suits own →
      Typed typeOf? (.binary opcode left right)

theorem Instruction.Admissible.typed {types : List ValueType} {instruction : Instruction} :
    instruction.Admissible types → instruction.Typed (types[·]?)
  | .getBank inside => .getBank inside
  | .setBank inside image => .setBank inside image
  | .extractLane image inside => .extractLane image inside
  | .insertLane image value inside _ => .insertLane image value inside
  | .iconst integer => .iconst integer
  | .f32const => .f32const
  | .f64const => .f64const
  | .extend isExtend argument integer _ _ => .extend isExtend argument integer
  | .unary isUnary argument suits => .unary isUnary argument suits
  | .binary isBinary left right suits => .binary isBinary left right suits

/-! ## Progress -/

def Values.Have (values : Values) (typeOf? : Nat → Option ValueType) : Prop :=
  ∀ value, (values value).map Datum.type = typeOf? value

theorem Values.define_some (values : Values) (made : Nat) (datum : Datum) (value : Nat) :
    values.define (some made) datum value =
      if value = made then some datum else values value :=
  rfl

namespace Values.Have

variable {values : Values} {typeOf? : Nat → Option ValueType} {value : Nat}

theorem operand_image (have' : values.Have typeOf?) (typed : typeOf? value = some .image) :
    ∃ content, operand values value = .ok (.image content) := by
  rw [← have'] at typed
  rcases Option.map_eq_some_iff.mp typed with ⟨datum, found, isImage⟩
  cases datum with
  | scalar type pattern => cases isImage
  | image content => exact ⟨content, operand_eq_ok.mpr found⟩

theorem operand_scalar (have' : values.Have typeOf?) {type : ScalarType}
    (typed : typeOf? value = some (.scalar type)) :
    ∃ pattern, operand values value = .ok (.scalar type pattern) := by
  rw [← have'] at typed
  rcases Option.map_eq_some_iff.mp typed with ⟨datum, found, isScalar⟩
  cases datum with
  | image content => cases isScalar
  | scalar own pattern =>
      cases isScalar
      exact ⟨pattern, operand_eq_ok.mpr found⟩

end Values.Have

def Effect.Announced : Option ValueType → Effect → Prop
  | some type, .make datum => datum.type = type
  | none, .commit _ _ => True
  | _, _ => False

theorem Instruction.Typed.exists_effect [FloatArithmetic] {typeOf? : Nat → Option ValueType}
    {instruction : Instruction} (typed : instruction.Typed typeOf?) {values : Values}
    (have' : values.Have typeOf?) (registers : RegisterFile) (position : Nat) :
    ∃ effect, instruction.effect position values registers = .ok effect ∧
      effect.Announced (instruction.resultType? typeOf?) := by
  cases typed with
  | @getBank bank inside =>
      refine ⟨.make (.image (registers.image bank)), ?_, rfl⟩
      rw [Instruction.effect, registers.bank?_eq_image inside]
  | @setBank bank image inside isImage =>
      rcases have'.operand_image isImage with ⟨content, found⟩
      refine ⟨.commit ⟨bank, inside⟩ content, ?_, trivial⟩
      simp [Instruction.effect, found, imageOperand, inside, bind, Except.bind]
  | @extractLane type image lane isImage inside =>
      rcases have'.operand_image isImage with ⟨content, found⟩
      refine ⟨.make (.scalar type (content.lane type.width lane)), ?_, rfl⟩
      simp only [Instruction.effect, found, imageOperand, laneType, inside, if_true, bind,
        Except.bind]
  | @insertLane type own image value lane isImage isScalar inside =>
      rcases have'.operand_image isImage with ⟨content, found⟩
      rcases have'.operand_scalar isScalar with ⟨pattern, foundValue⟩
      refine ⟨.make (.image
        (content.setLane lane ((pattern.setWidth 64).setWidth type.width))), ?_, rfl⟩
      simp only [Instruction.effect, found, foundValue, imageOperand, laneType, inside, if_true,
        Datum.bits?, bind, Except.bind]
  | @iconst type immediate integer =>
      exact ⟨.make (.scalar type (immediate.setWidth type.width)), rfl, rfl⟩
  | @f32const pattern => exact ⟨.make (.scalar .f32 pattern), rfl, rfl⟩
  | @f64const pattern => exact ⟨.make (.scalar .f64 pattern), rfl, rfl⟩
  | @extend opcode type own argument isExtend isScalar integer =>
      rcases have'.operand_scalar isScalar with ⟨pattern, found⟩
      rcases isExtend with rfl | rfl
      · refine ⟨.make (.scalar type ((pattern.signExtend 64).setWidth type.width)), ?_, rfl⟩
        simp only [effect_extend, found, Datum.signed?, integer, if_true, makeOr, Datum.ofBits?,
          bind, Except.bind]
      · refine ⟨.make (.scalar type ((pattern.setWidth 64).setWidth type.width)), ?_, rfl⟩
        simp only [effect_extend, found, Datum.unsigned?, integer, reduceCtorEq, if_false, if_true,
          makeOr, Datum.ofBits?, bind, Except.bind]
  | @unary opcode own argument isUnary isScalar suits =>
      rcases have'.operand_scalar isScalar with ⟨pattern, found⟩
      rcases Opcode.exists_unary? isUnary suits pattern with ⟨made, isMade⟩
      refine ⟨.make (.scalar own made), ?_, ?_⟩
      · simp only [Instruction.effect, Instruction.opcode, found, Datum.unary?, isMade,
          Option.map_some, makeOr, bind, Except.bind]
      · rw [resultType?, isScalar]
        rfl
  | @binary opcode own left right isBinary isLeft isRight suits =>
      rcases have'.operand_scalar isLeft with ⟨x, foundLeft⟩
      rcases have'.operand_scalar isRight with ⟨y, foundRight⟩
      rcases Opcode.exists_binary? isBinary suits x y with ⟨made, isMade⟩
      refine ⟨.make (.scalar own made), ?_, ?_⟩
      · simp only [Instruction.effect, Instruction.opcode, foundLeft, foundRight, Datum.type,
          if_true, Datum.binary?, dif_pos, isMade, Option.map_some, makeOr, bind, Except.bind]
      · rw [resultType?, isLeft]
        rfl

/-! ## Functions -/

def evaluateEntries [FloatArithmetic] (position : Nat) (values : Values)
    (registers : RegisterFile) :
    List Entry → Except RunError (Values × RegisterFile)
  | [] => .ok (values, registers)
  | entry :: rest =>
      match entry.instruction.effect position values registers with
      | .error error => .error error
      | .ok (.make datum) =>
          evaluateEntries (position + 1) (values.define entry.result datum) registers rest
      | .ok (.commit bank image) =>
          evaluateEntries (position + 1) values (registers.setBank bank image) rest

theorem runEntries_of_evaluateEntries [FloatArithmetic] {values : Values} {after : RegisterFile} :
    ∀ (entries : List Entry) {position : Nat} {before : Values} {registers : RegisterFile},
      evaluateEntries position before registers entries = .ok (values, after) →
        runEntries position before registers entries = ⟨after, .ok ()⟩
  | [], position, before, registers, evaluated => by
      cases evaluated
      rfl
  | entry :: rest, position, before, registers, evaluated => by
      rw [evaluateEntries] at evaluated
      rw [runEntries]
      cases effect : entry.instruction.effect position before registers with
      | error error => simp [effect] at evaluated
      | ok effect' =>
          rw [effect] at evaluated
          cases effect' <;> exact runEntries_of_evaluateEntries rest evaluated

namespace Function

def evaluate [FloatArithmetic] (function : Function) (registers : RegisterFile) :
    Except RunError (Values × RegisterFile) :=
  evaluateEntries 0 Values.empty registers function.entries.toList

def typesBefore (function : Function) (position value : Nat) : Option ValueType :=
  function.definitions[value]?.bind fun definition =>
    if definition.position < position then some definition.type else none

/-- Every instruction is typed where it stands, its result is declared with the type of
the value that it makes, and nothing else is declared. -/
structure WellTyped (function : Function) : Prop where
  typed : ∀ (position : Nat) (entry : Entry), function.entries[position]? = some entry →
    entry.instruction.Typed (function.typesBefore position)
  declared : ∀ (position : Nat) (entry : Entry), function.entries[position]? = some entry →
    entry.result.map (function.definitions[·]?) =
      (entry.instruction.resultType? (function.typesBefore position)).map
        fun type => some ⟨type, position⟩
  made : ∀ (value : Nat) (definition : Definition), function.definitions[value]? = some definition →
    ∃ entry, function.entries[definition.position]? = some entry ∧ entry.result = some value

variable {function : Function}

namespace WellTyped

theorem exists_earlier (wellTyped : function.WellTyped) {position value : Nat} {type : ValueType}
    (known : function.typesBefore position value = some type) :
    ∃ earlier < position, function.result? earlier = some value := by
  rcases Option.bind_eq_some_iff.mp known with ⟨definition, found, isEarlier⟩
  have earlier : definition.position < position := by
    by_cases earlier : definition.position < position
    · exact earlier
    · simp [earlier] at isEarlier
  rcases wellTyped.made value definition found with ⟨entry, isEntry, isResult⟩
  exact ⟨definition.position, earlier, by rw [result?, isEntry, Option.bind_some, isResult]⟩

theorem typesBefore_size (wellTyped : function.WellTyped) :
    function.typesBefore function.entries.size = function.typeOf? := by
  funext value
  rw [typesBefore, typeOf?]
  cases found : function.definitions[value]? with
  | none => rfl
  | some definition =>
      rcases wellTyped.made value definition found with ⟨entry, isEntry, _⟩
      have inside : definition.position < function.entries.size :=
        (Array.getElem?_eq_some_iff.mp isEntry).1
      simp [inside]

/-! ## Building -/

theorem empty (name : String) : ({ name := name } : Function).WellTyped where
  typed position entry found := by simp at found
  declared position entry found := by simp at found
  made value definition found := by simp at found

theorem typesBefore_push (instruction : Instruction) (type : Option ValueType) {position : Nat}
    (inside : position ≤ function.entries.size) :
    (function.push instruction type).typesBefore position = function.typesBefore position := by
  funext value
  cases type with
  | none => rfl
  | some type =>
      rw [typesBefore, typesBefore, push, Array.getElem?_push]
      by_cases last : value = function.definitions.size
      · have unknown : ¬function.entries.size < position := by omega
        simp [last, unknown]
      · simp [last]

theorem build (wellTyped : function.WellTyped) {instruction : Instruction}
    (typed : instruction.Typed function.typeOf?) : (function.build instruction).WellTyped := by
  rw [Function.build]
  constructor
  · intro position entry found
    rw [entry_push] at found
    split at found
    · rename_i isLast
      cases found
      rw [isLast, typesBefore_push _ _ (Nat.le_refl _), wellTyped.typesBefore_size]
      exact typed
    · have inside := (Array.getElem?_eq_some_iff.mp found).1
      rw [typesBefore_push _ _ (Nat.le_of_lt inside)]
      exact wellTyped.typed position entry found
  · intro position entry found
    rw [entry_push] at found
    split at found
    · rename_i isLast
      cases found
      rw [isLast, typesBefore_push _ _ (Nat.le_refl _), wellTyped.typesBefore_size]
      cases type : instruction.resultType? function.typeOf? with
      | none => rfl
      | some type => simp [definition_push]
    · have inside := (Array.getElem?_eq_some_iff.mp found).1
      have declared := wellTyped.declared position entry found
      rw [typesBefore_push _ _ (Nat.le_of_lt inside), ← declared]
      cases result : entry.result with
      | none => rfl
      | some value =>
          -- The entry's own definition is older than the new one.
          rw [result, Option.map_some] at declared
          rcases Option.map_eq_some_iff.mp declared.symm with ⟨type, _, isDeclared⟩
          have older := (Array.getElem?_eq_some_iff.mp isDeclared.symm).1
          rw [Option.map_some, Option.map_some, definition_push,
            if_neg (Nat.ne_of_lt older)]
  · intro value definition found
    rw [definition_push] at found
    split at found
    · rename_i isLast
      rcases Option.map_eq_some_iff.mp found with ⟨type, isType, rfl⟩
      rw [entry_push, if_pos rfl, isType, isLast]
      exact ⟨_, rfl, rfl⟩
    · rcases wellTyped.made value definition found with ⟨entry, isEntry, isResult⟩
      have inside := (Array.getElem?_eq_some_iff.mp isEntry).1
      rw [entry_push, if_neg (Nat.ne_of_lt inside)]
      exact ⟨entry, isEntry, isResult⟩

/-! ## Running -/

/-- One entry makes the value that is declared for it, and no other. -/
theorem typesBefore_succ (wellTyped : function.WellTyped) {position : Nat} {entry : Entry}
    (found : function.entries[position]? = some entry) (value : Nat) :
    function.typesBefore (position + 1) value =
      if entry.result = some value then
        entry.instruction.resultType? (function.typesBefore position)
      else
        function.typesBefore position value := by
  have declared := wellTyped.declared position entry found
  split
  · rename_i isResult
    rw [isResult, Option.map_some] at declared
    rcases Option.map_eq_some_iff.mp declared.symm with ⟨type, isType, isDeclared⟩
    rw [isType, typesBefore, ← isDeclared, Option.bind_some, if_pos (Nat.lt_succ_self position)]
  · rename_i other
    rw [typesBefore, typesBefore]
    cases isDefined : function.definitions[value]? with
    | none => rfl
    | some definition =>
        have elsewhere : definition.position ≠ position := by
          intro here
          rcases wellTyped.made value definition isDefined with ⟨maker, isMaker, isResult⟩
          rw [here, found] at isMaker
          cases isMaker
          exact other isResult
        have same : definition.position < position + 1 ↔ definition.position < position := by
          omega
        simp only [Option.bind_some, same]

variable [FloatArithmetic]

theorem evaluates_entries (wellTyped : function.WellTyped) :
    ∀ (rest : List Entry) (position : Nat) (values : Values) (registers : RegisterFile),
      (∀ index (inside : index < rest.length),
        function.entries[position + index]? = some rest[index]) →
      values.Have (function.typesBefore position) →
      ∃ last after, evaluateEntries position values registers rest = .ok (last, after) ∧
        last.Have (function.typesBefore (position + rest.length))
  | [], position, values, registers, _, have' => ⟨values, registers, rfl, have'⟩
  | entry :: rest, position, values, registers, listed, have' => by
      have found : function.entries[position]? = some entry := listed 0 (Nat.zero_lt_succ _)
      have succ := wellTyped.typesBefore_succ found
      have declared := wellTyped.declared position entry found
      have listedRest : ∀ index (inside : index < rest.length),
          function.entries[position + 1 + index]? = some rest[index] := by
        intro index inside
        rw [Nat.add_assoc, Nat.add_comm 1]
        exact listed (index + 1) (Nat.succ_lt_succ inside)
      rcases (wellTyped.typed position entry found).exists_effect have' registers position with
        ⟨effect, isEffect, announced⟩
      rw [List.length_cons, Nat.add_comm rest.length, ← Nat.add_assoc]
      rw [evaluateEntries, isEffect]
      cases type : entry.instruction.resultType? (function.typesBefore position) with
      | none =>
          rw [type] at announced declared
          have noResult : entry.result = none := Option.map_eq_none_iff.mp declared
          cases effect with
          | make datum => exact announced.elim
          | commit bank image =>
              apply evaluates_entries wellTyped rest (position + 1) _ _ listedRest
              intro value
              rw [succ, noResult, if_neg (by simp)]
              exact have' value
      | some type =>
          rw [type] at announced declared
          rcases Option.map_eq_some_iff.mp declared with ⟨made, isResult, _⟩
          cases effect with
          | commit bank image => exact announced.elim
          | make datum =>
              apply evaluates_entries wellTyped rest (position + 1) _ _ listedRest
              intro value
              rw [succ, isResult, Values.define_some]
              by_cases same : value = made
              · rw [if_pos same, if_pos (congrArg some same.symm), type, Option.map_some, announced]
              · rw [if_neg same, if_neg fun other => same (Option.some.inj other).symm]
                exact have' value

/-- A well-typed function runs without an error over any registers, and what it makes are
values of the declared types. -/
theorem evaluates (wellTyped : function.WellTyped) (registers : RegisterFile) :
    ∃ values after,
      function.evaluate registers = .ok (values, after) ∧
      function.run registers = ⟨after, .ok ()⟩ ∧
      values.Have function.typeOf? := by
  have nothing : Values.empty.Have (function.typesBefore 0) := by
    intro value
    rw [typesBefore]
    cases function.definitions[value]? <;> rfl
  have listed : ∀ index (inside : index < function.entries.toList.length),
      function.entries[0 + index]? = some function.entries.toList[index] := by
    intro index inside
    rw [Nat.zero_add, ← Array.getElem?_toList, List.getElem?_eq_getElem]
  rcases wellTyped.evaluates_entries _ 0 _ registers listed nothing with
    ⟨values, after, evaluated, have'⟩
  rw [Nat.zero_add, Array.length_toList, wellTyped.typesBefore_size] at have'
  exact ⟨values, after, evaluated, runEntries_of_evaluateEntries _ evaluated, have'⟩

end WellTyped

end Function

end LaneLift.Lane
