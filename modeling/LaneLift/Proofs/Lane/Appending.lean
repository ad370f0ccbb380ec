import LaneLift.Proofs.Lane.Progress

/-!
# Appending code to a function

A function that has run without an error is continued by the code appended to
it: the function then ends where that code, run on its own over the registers
left so far, ends.
-/

namespace LaneLift.Lane

namespace Function

/-- The function runs without an error and has come thus far at its end: it has
made these values, and whatever stands behind it goes on from there. -/
structure Leaves [FloatArithmetic] (function : Function) (registers : RegisterFile)
    (after : Progress) : Prop where
  valueCount : function.definitions.size = after.values.length
  types : ∀ value, function.typeOf? value = after.values[value]?.map Datum.type
  continues : ∀ rest,
    runEntries 0 Values.empty registers (function.entries.toList ++ rest) =
      runEntries function.entries.size (.ofList after.values) after.registers rest

theorem leaves_empty [FloatArithmetic] (name : String) (registers : RegisterFile) :
    Leaves { name := name } registers ⟨[], registers⟩ where
  valueCount := rfl
  types _ := rfl
  continues _ := rfl

theorem Leaves.run [FloatArithmetic] {function : Function} {registers : RegisterFile}
    {after : Progress}
    (leaves : function.Leaves registers after) :
    function.run registers = ⟨after.registers, .ok ()⟩ := by
  have continued := leaves.continues []
  rw [List.append_nil] at continued
  rw [Function.run, continued, runEntries]

theorem Datum.type_of_ofBits? {type : ValueType} {bits : BitVec 64} {datum : Datum}
    (made : Datum.ofBits? type bits = some datum) : datum.type = type := by
  cases type with
  | image => simp [Datum.ofBits?] at made
  | scalar scalar =>
      cases made
      rfl

variable [FloatArithmetic]

theorem Datum.type_of_unary? {opcode : Opcode} {x datum : Datum}
    (made : x.unary? opcode = some datum) : datum.type = x.type := by
  cases x with
  | image content => simp [Datum.unary?] at made
  | scalar type pattern =>
      rcases Option.map_eq_some_iff.mp made with ⟨_, _, rfl⟩
      rfl

theorem Datum.type_of_binary? {opcode : Opcode} {x y datum : Datum}
    (made : x.binary? opcode y = some datum) : datum.type = x.type := by
  cases x with
  | image content => simp [Datum.binary?] at made
  | scalar type pattern =>
      cases y with
      | image content => simp [Datum.binary?] at made
      | scalar otherType otherPattern =>
          by_cases same : otherType = type
          · rw [Datum.binary?, dif_pos same] at made
            rcases Option.map_eq_some_iff.mp made with ⟨_, _, rfl⟩
            rfl
          · simp [Datum.binary?, same] at made

theorem resultType?_of_make {typeOf? : Nat → Option ValueType} {values : List Datum}
    {registers : RegisterFile} {instruction : Instruction} {datum : Datum} {position : Nat}
    (typed : ∀ value, typeOf? value = values[value]?.map Datum.type)
    (succeeds : instruction.effect position (.ofList values) registers = .ok (.make datum)) :
    instruction.resultType? typeOf? = some datum.type := by
  cases instruction with
  | getBank bank =>
      simp only [Instruction.effect] at succeeds
      cases read : registers.bank? bank <;> simp only [read, reduceCtorEq] at succeeds
      cases succeeds
      rfl
  | setBank bank image => cases Instruction.makesValue_of_make succeeds
  | extractLane type image lane =>
      simp only [Instruction.effect, Except.bind_eq_ok, laneType_eq_ok] at succeeds
      rcases succeeds with ⟨_, _, _, _, scalar, ⟨rfl, _⟩, made⟩
      cases made
      rfl
  | insertLane type image value lane =>
      simp only [Instruction.effect, Except.bind_eq_ok] at succeeds
      rcases succeeds with ⟨_, _, _, _, inserted, _, _, _, made⟩
      cases bits : inserted.bits? <;> simp only [bits, reduceCtorEq] at made
      cases made
      rfl
  | iconst type immediate =>
      simp only [Instruction.effect, makeOr_eq_ok] at succeeds
      rcases succeeds with ⟨_, made, same⟩
      cases same
      rw [Instruction.resultType?, Datum.type_of_ofBits? made]
  | f32const pattern =>
      cases succeeds
      rfl
  | f64const pattern =>
      cases succeeds
      rfl
  | extend opcode type argument =>
      simp only [Instruction.effect_extend, Except.bind_eq_ok] at succeeds
      rcases succeeds with ⟨operand, _, made⟩
      cases wide : (if opcode = .sextend then operand.signed? else operand.unsigned?) with
      | none => simp [wide] at made
      | some bits =>
          simp only [wide, makeOr_eq_ok] at made
          rcases made with ⟨_, made, same⟩
          cases same
          rw [Instruction.resultType?, Datum.type_of_ofBits? made]
  | unary opcode argument =>
      simp only [Instruction.effect, Except.bind_eq_ok, operand_eq_ok, makeOr_eq_ok] at succeeds
      rcases succeeds with ⟨operand, found, _, made, same⟩
      cases same
      rw [Instruction.resultType?, typed, ← Values.ofList, found, Option.map_some,
        Datum.type_of_unary? made]
  | binary opcode left right =>
      simp only [Instruction.effect, Except.bind_eq_ok, operand_eq_ok] at succeeds
      rcases succeeds with ⟨x, found, y, _, made⟩
      by_cases sameType : x.type = y.type
      · simp only [sameType, if_true, makeOr_eq_ok] at made
        rcases made with ⟨_, made, same⟩
        cases same
        rw [Instruction.resultType?, typed, ← Values.ofList, found, Option.map_some,
          Datum.type_of_binary? made]
      · simp [sameType] at made

theorem Leaves.build {function : Function} {registers : RegisterFile} {after : Progress}
    {instruction : Instruction} {effect : Effect} (leaves : function.Leaves registers after)
    (succeeds : instruction.Succeeds after effect) :
    (function.build instruction).Leaves registers (after.apply effect) := by
  have sameCount := leaves.valueCount
  cases effect with
  | make datum =>
      have isTyped := resultType?_of_make leaves.types (succeeds 0)
      have defines : (Values.ofList after.values).define (some after.values.length) datum =
          .ofList (after.values ++ [datum]) := by
        funext value
        simp only [Values.define, Values.ofList, List.getElem?_append]
        grind
      rw [Function.build, isTyped, push]
      constructor
      · simp [sameCount, Progress.apply]
      · intro value
        have earlier := leaves.types value
        simp only [typeOf?, Progress.apply, Array.getElem?_push, List.getElem?_append,
          sameCount] at earlier ⊢
        grind
      · intro rest
        simp only [Array.toList_push, Array.size_push, List.append_assoc,
          List.singleton_append]
        rw [leaves.continues, runEntries, succeeds, sameCount]
        simp only [defines, Progress.apply]
  | commit bank image =>
      have makes := Instruction.makesValue_of_commit (succeeds 0)
      have untyped : instruction.resultType? function.typeOf? = none := by
        cases instruction <;> simp_all [Instruction.makesValue, Instruction.resultType?]
      rw [Function.build, untyped, push]
      constructor
      · exact sameCount
      · exact leaves.types
      · intro rest
        simp only [Array.toList_push, Array.size_push, List.append_assoc,
          List.singleton_append]
        rw [leaves.continues, runEntries, succeeds]
        simp only [Progress.apply]

theorem Leaves.foldl_build {registers : RegisterFile} {before after : Progress} {code : Code}
    (run : Code.Reaches before code after) :
    ∀ {function : Function}, function.Leaves registers before →
      (code.foldl Function.build function).Leaves registers after := by
  induction run with
  | nil => exact fun leaves => leaves
  | cons succeeds _ induction => exact fun leaves => induction (leaves.build succeeds)

/-- A function goes on from where it ends as the code appended to it goes from
there on its own. -/
theorem Leaves.append {function : Function} {registers : RegisterFile} {before after : Progress}
    {code : Code} (leaves : function.Leaves registers before)
    (run : Code.Reaches ⟨[], before.registers⟩ code after) :
    Leaves (CodeBuilder.append function code) registers
      ⟨before.values ++ after.values, after.registers⟩ := by
  have behind := run.behind before.values
  have start : CodeBuilder.valueCount function = before.values.length := leaves.valueCount
  rw [List.append_nil] at behind
  have appended := Leaves.foldl_build behind leaves
  rw [List.foldl_map, ← start] at appended
  exact appended

theorem run_append_empty {name : String} {registers : RegisterFile} {after : Progress}
    {code : Code} (run : Code.Reaches ⟨[], registers⟩ code after) :
    Function.run (CodeBuilder.append ({ name := name } : Function) code) registers =
      ⟨after.registers, .ok ()⟩ :=
  ((leaves_empty name registers).append run).run

end Function

end LaneLift.Lane
