import LaneLift.Proofs.Lane.Building

/-!
# Type soundness

What is declared for the values of a well-typed function is what a run of it computes. Whether a
function is well typed shows in what was pushed to it. A function that is built one instruction
after the other is well typed if each is accepted and its operands are of the kinds that it is
for, which a function does not assert.
-/

namespace LaneLift.Lane

/-! ## Pushes -/

namespace Push

def typesBefore (pushes : List Push) (position value : Nat) : Option ValueType :=
  ((pushes.take position).filterMap Push.result)[value]?

def WellTyped (pushes : List Push) : Prop :=
  ∀ position (push : Push), pushes[position]? = some push →
    push.instruction.Typed (typesBefore pushes position) ∧
    push.result = push.instruction.resultType? (typesBefore pushes position)

theorem type_definitionsFrom (start position value : Nat) (pushes : List Push) :
    ((definitionsFrom start pushes)[value]?.bind fun definition =>
        if definition.position < start + position then some definition.type else none) =
      typesBefore pushes position value := by
  rw [typesBefore]
  induction pushes generalizing start position value with
  | nil => simp [definitionsFrom]
  | cons push rest induction =>
      cases position with
      | zero =>
          rw [List.take_zero, List.filterMap_nil, List.getElem?_nil, Option.bind_eq_none_iff]
          intro definition defined
          rcases exists_push_of_definitionsFrom defined with ⟨index, _, _, _, stands, _⟩
          exact if_neg (by omega)
      | succ position =>
          rw [List.take_succ_cons, ← Nat.add_assoc, Nat.add_right_comm]
          rcases push with ⟨instruction, _ | type⟩
          · rw [definitionsFrom, List.filterMap_cons, induction]
          · rw [definitionsFrom, List.filterMap_cons]
            cases value with
            | zero => simp; omega
            | succ value => exact induction _ _ _

end Push

namespace Function

theorem typesBefore_ofPushes (name : String) (pushes : List Push) (position : Nat) :
    (ofPushes name pushes).typesBefore position = Push.typesBefore pushes position := by
  funext value
  rw [typesBefore, ← Array.getElem?_toList, definitions_ofPushes,
    ← Push.type_definitionsFrom 0 position value pushes, Nat.zero_add]

theorem declared_ofPushes {name : String} {pushes : List Push} {position : Nat} {push : Push}
    (pushed : pushes[position]? = some push) :
    (push.result.map fun _ => Push.valueCount (pushes.take position)).map
        ((ofPushes name pushes).definitions[·]?) =
      push.result.map fun type => some ⟨type, position⟩ := by
  cases declared : push.result with
  | none => rfl
  | some type =>
      simp only [Option.map_some, ← Array.getElem?_toList, definitions_ofPushes,
        Push.getElem?_definitionsFrom pushed declared, Nat.zero_add]

theorem wellTyped_ofPushes_iff (name : String) (pushes : List Push) :
    (ofPushes name pushes).WellTyped ↔ Push.WellTyped pushes := by
  have sameType : ∀ position,
      Function.Injective fun type => some (Definition.mk type position) := by
    intro position left right same
    cases same
    rfl
  constructor
  · intro wellTyped position push pushed
    have found := entry_ofPushes name pushes position
    rw [pushed, Option.map_some] at found
    have typed := wellTyped.typed position _ found
    have declared := wellTyped.declared position _ found
    rw [declared_ofPushes pushed] at declared
    rw [typesBefore_ofPushes] at typed declared
    exact ⟨typed, Option.map_injective (sameType position) declared⟩
  · intro wellTyped
    constructor
    · intro position entry found
      rw [entry_ofPushes] at found
      rcases Option.map_eq_some_iff.mp found with ⟨push, pushed, rfl⟩
      rw [typesBefore_ofPushes]
      exact (wellTyped position push pushed).1
    · intro position entry found
      rw [entry_ofPushes] at found
      rcases Option.map_eq_some_iff.mp found with ⟨push, pushed, rfl⟩
      rw [typesBefore_ofPushes, declared_ofPushes pushed, ← (wellTyped position push pushed).2]
    · intro value definition defined
      have makes := result?_of_definition name pushes defined
      exact Option.bind_eq_some_iff.mp makes

/-! ## Building -/

/-- What an instruction is for, where a function does not assert it: banks that exist, lanes that
are scalars, values that can be put into lanes, integers to extend, and operations on the types
that they suit. -/
def OfKind (function : Function) : Instruction → Prop
  | .getBank bank | .setBank bank _ => bank < bankCount
  | .extractLane type _ _ => type ≠ .image
  | .insertLane type _ value _ =>
      type ≠ .image ∧ ∃ own, function.typeOf? value = some (.scalar own)
  | .iconst _ _ | .f32const _ | .f64const _ => True
  | .extend _ type argument =>
      type ≠ .image ∧
        ∃ own, function.typeOf? argument = some (.scalar own) ∧ own.isInteger = true
  | .unary opcode argument =>
      ∃ own, function.typeOf? argument = some (.scalar own) ∧ opcode.Suits own
  | .binary opcode left _ =>
      ∃ own, function.typeOf? left = some (.scalar own) ∧ opcode.Suits own

theorem exists_scalar_of_ne {type : ValueType} (scalar : type ≠ .image) :
    ∃ own, type = .scalar own := by
  cases type with
  | image => exact absurd rfl scalar
  | scalar own => exact ⟨own, rfl⟩

theorem typed_of_accepts {function : Function} {instruction : Instruction}
    (accepts : function.Accepts instruction) (ofKind : function.OfKind instruction) :
    instruction.Typed function.typeOf? := by
  cases instruction with
  | getBank bank => exact .getBank ofKind
  | setBank bank image => exact .setBank ofKind accepts
  | extractLane type image lane =>
      rcases exists_scalar_of_ne ofKind with ⟨scalar, rfl⟩
      exact .extractLane accepts.1 accepts.2
  | insertLane type image value lane =>
      rcases ofKind with ⟨isScalar, own, found⟩
      rcases exists_scalar_of_ne isScalar with ⟨scalar, rfl⟩
      exact .insertLane accepts.1 found accepts.2
  | iconst type immediate =>
      cases type with
      | image => cases accepts
      | scalar scalar => exact .iconst accepts
  | f32const pattern => exact .f32const
  | f64const pattern => exact .f64const
  | extend opcode type argument =>
      rcases ofKind with ⟨isScalar, own, found, integer⟩
      rcases exists_scalar_of_ne isScalar with ⟨scalar, rfl⟩
      exact .extend accepts.1 found integer
  | unary opcode argument =>
      rcases ofKind with ⟨own, found, suits⟩
      exact .unary accepts.1 found suits
  | binary opcode left right =>
      rcases ofKind with ⟨own, found, suits⟩
      rcases accepts with ⟨isBinary, type, foundLeft, foundRight⟩
      rw [found] at foundLeft
      cases foundLeft
      exact .binary isBinary found foundRight suits

inductive Built : Function → Prop
  | new (name : String) : Built { name := name }
  | build {function : Function} {instruction : Instruction} :
      Built function → function.Accepts instruction → function.OfKind instruction →
      Built (function.build instruction)

theorem Built.wellTyped {function : Function} (built : function.Built) : function.WellTyped := by
  induction built with
  | new name => exact .empty name
  | build _ accepts ofKind wellTyped => exact wellTyped.build (typed_of_accepts accepts ofKind)

/-- A function is well typed if what was pushed to it is, and if it was built of instructions
that are accepted and of their kind. Then it runs without an error over any registers, and what
it computes are values of the declared types. -/
theorem wellTyped_sound [FloatArithmetic] :
    (∀ name pushes, (ofPushes name pushes).WellTyped ↔ Push.WellTyped pushes) ∧
    (∀ function : Function, function.WellTyped → ∀ registers, ∃ values after,
      function.evaluate registers = .ok (values, after) ∧
      function.run registers = ⟨after, .ok ()⟩ ∧
      ∀ value, (values value).map Datum.type = function.typeOf? value) ∧
    ∀ function : Function, function.Built → function.WellTyped :=
  ⟨wellTyped_ofPushes_iff, fun _ wellTyped => wellTyped.evaluates,
    fun _ built => built.wellTyped⟩

/-- An integer is extended to a float, and the float is put into a byte. -/
theorem wellTyped_sound_widening :
    let image := build {} (.getBank 1)
    let lane := image.build (.extractLane (.scalar .i16) 0 7)
    let widened := lane.build (.extend .uextend (.scalar .f64) 1)
    let negated := widened.build (.unary .fneg 2)
    let inserted := negated.build (.insertLane (.scalar .i8) 0 3 15)
    let function := inserted.build (.setBank 1 4)
    function.Built ∧ function.WellTyped ∧
    ∀ registers, ∃ values after,
      function.evaluate registers = .ok (values, after) ∧
      function.run registers = ⟨after, .ok ()⟩ ∧
      (values 2).map Datum.type = some (.scalar .f64) := by
  intro image lane widened negated inserted function
  have builtImage : image.Built := .build (.new "") trivial (by decide : 1 < bankCount)
  have builtLane : lane.Built := .build builtImage ⟨rfl, by decide⟩ nofun
  have builtWidened : widened.Built :=
    .build builtLane ⟨.inr rfl, _, rfl, by decide⟩ ⟨nofun, _, rfl, rfl⟩
  have builtNegated : negated.Built :=
    .build builtWidened ⟨rfl, _, rfl⟩ ⟨_, rfl, .inr ⟨rfl, rfl⟩⟩
  have builtInserted : inserted.Built :=
    .build builtNegated ⟨rfl, by decide⟩ ⟨nofun, _, rfl⟩
  have built : function.Built := .build builtInserted rfl (by decide : 1 < bankCount)
  have wellTyped := wellTyped_sound.2.2 function built
  refine ⟨built, wellTyped, fun registers => ?_⟩
  rcases wellTyped_sound.2.1 function wellTyped registers with
    ⟨values, after, evaluated, run, typed⟩
  exact ⟨values, after, evaluated, run, typed 2⟩

end Function

end LaneLift.Lane
