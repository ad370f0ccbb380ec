import LaneLift.Proofs.Lane.Progress

/-!
# Arithmetic code

Code that touches neither banks nor images has a meaning of its own: the values
that it computes from those before it. It runs wherever its operands are found,
under whatever names, and makes just these values.
-/

namespace LaneLift.Lane

variable [FloatArithmetic]

def Instruction.compute? (values : List Datum) : Instruction → Option Datum
  | .iconst type immediate => Datum.ofBits? type immediate
  | .f32const pattern => some (.scalar .f32 pattern)
  | .f64const pattern => some (.scalar .f64 pattern)
  | .extend opcode type argument => do
      let datum ← values[argument]?
      (if opcode = .sextend then datum.signed? else datum.unsigned?).bind (Datum.ofBits? type)
  | .unary opcode argument => do (← values[argument]?).unary? opcode
  | .binary opcode left right => do (← values[left]?).binary? opcode (← values[right]?)
  | .getBank _ | .setBank _ _ | .extractLane _ _ _ | .insertLane _ _ _ _ => none

def Code.compute? (values : List Datum) : Code → Option (List Datum)
  | [] => some values
  | instruction :: rest => do
      let datum ← instruction.compute? values
      Code.compute? (values ++ [datum]) rest

theorem Datum.type_eq_of_binary? {opcode : Opcode} {x y made : Datum}
    (computed : x.binary? opcode y = some made) : x.type = y.type := by
  cases x with
  | image content => simp [Datum.binary?] at computed
  | scalar type pattern =>
      cases y with
      | image content => simp [Datum.binary?] at computed
      | scalar otherType otherPattern =>
          by_cases same : otherType = type
          · simp [Datum.type, same]
          · simp [Datum.binary?, same] at computed

theorem Instruction.effect_of_compute? {values : List Datum} {instruction : Instruction}
    {datum : Datum} (computed : instruction.compute? values = some datum)
    (registers : RegisterFile) (position : Nat) :
    instruction.effect position (.ofList values) registers = .ok (.make datum) := by
  cases instruction with
  | getBank | setBank | extractLane | insertLane => simp [Instruction.compute?] at computed
  | iconst type immediate => simp_all [Instruction.compute?, Instruction.effect, makeOr]
  | f32const pattern => simp_all [Instruction.compute?, Instruction.effect]
  | f64const pattern => simp_all [Instruction.compute?, Instruction.effect]
  | extend opcode type argument =>
      simp only [Instruction.compute?, Option.bind_eq_bind, Option.bind_eq_some_iff] at computed
      rcases computed with ⟨operand, found, bits, wide, made⟩
      simp [effect_extend, operand_ofList values found, wide, made, makeOr, bind, Except.bind]
  | unary opcode argument =>
      simp only [Instruction.compute?, Option.bind_eq_bind, Option.bind_eq_some_iff] at computed
      rcases computed with ⟨operand, found, made⟩
      simp [Instruction.effect, Instruction.opcode, operand_ofList values found, made, makeOr,
        bind, Except.bind]
  | binary opcode left right =>
      simp only [Instruction.compute?, Option.bind_eq_bind, Option.bind_eq_some_iff] at computed
      rcases computed with ⟨x, foundLeft, y, foundRight, made⟩
      have sameType := Datum.type_eq_of_binary? made
      simp [Instruction.effect, Instruction.opcode, operand_ofList values foundLeft,
        operand_ofList values foundRight, sameType, made, makeOr, bind, Except.bind]

/-- Arithmetic code runs under other names as it computes. -/
theorem Code.reaches_of_compute? {arguments values : List Datum} {names : Nat → Nat}
    (agrees : ∀ made value datum, (arguments ++ made)[value]? = some datum →
      (values ++ made)[names value]? = some datum) (registers : RegisterFile) :
    ∀ (code : Code) (made : List Datum) {computed : List Datum},
      code.compute? (arguments ++ made) = some computed →
        ∃ more, computed = arguments ++ (made ++ more) ∧
          Code.Reaches ⟨values ++ made, registers⟩ (code.map (Instruction.rename names))
            ⟨values ++ (made ++ more), registers⟩
  | [], made, computed, isComputed => by
      refine ⟨[], ?_, ?_⟩
      · simpa [Code.compute?, eq_comm] using isComputed
      · rw [List.append_nil]
        exact .nil _
  | instruction :: rest, made, computed, isComputed => by
      simp only [Code.compute?, Option.bind_eq_bind, Option.bind_eq_some_iff] at isComputed
      rcases isComputed with ⟨datum, first, later⟩
      rw [List.append_assoc] at later
      rcases reaches_of_compute? agrees registers rest (made ++ [datum]) later with
        ⟨more, isAll, run⟩
      have succeeds : (instruction.rename names).Succeeds ⟨values ++ made, registers⟩
          (.make datum) :=
        fun position => Instruction.effect_rename (agrees made)
          (Instruction.effect_of_compute? first registers 0) position
      refine ⟨datum :: more, by simpa using isAll, .cons succeeds ?_⟩
      simpa [Progress.apply] using run

end LaneLift.Lane
