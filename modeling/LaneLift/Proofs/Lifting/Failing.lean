import LaneLift.Proofs.Guest.Decode
import LaneLift.Proofs.Lane.Building
import LaneLift.Proofs.Lane.Stopping
import LaneLift.Proofs.Lifting.Acceptance

/-!
# What a failed emission leaves behind

Operands need not come from a word: any class can stand with any operands. The class decides
whether operands are lowered, and the registers of vector operands whether what they lower to
exists. An emission fails before it reads a bank, so it commits nothing, and a run does not see
what it has left.
-/

namespace LaneLift

open Guest (Mnemonic Operands)
open Lane (Code CodeBuilder Function)

/-! ## Constants -/

namespace Lane

def Code.Constant (code : Code) : Prop :=
  ∀ instruction ∈ code, ∃ immediate, instruction = .iconst (.scalar .i64) immediate

namespace Function

theorem count_eq_countP_code (function : Function) (opcode : Opcode) :
    function.count opcode =
      function.code.countP fun instruction => instruction.opcode = opcode := by
  rw [count, code, List.countP_map]
  rfl

theorem exists_entries_build (function : Function) (instruction : Instruction) :
    ∃ result, (function.build instruction).entries.toList =
      function.entries.toList ++ [⟨instruction, result⟩] := by
  rw [build]
  cases instruction.resultType? function.typeOf? with
  | none => exact ⟨none, Array.toList_push⟩
  | some type => exact ⟨some function.definitions.size, Array.toList_push⟩

theorem run_build_iconst [FloatArithmetic] (function : Function) (immediate : BitVec 64)
    (registers : RegisterFile) :
    (function.build (.iconst (.scalar .i64) immediate)).run registers = function.run registers := by
  rcases function.exists_entries_build (.iconst (.scalar .i64) immediate) with ⟨result, entries⟩
  have before := runEntries_append function.entries.toList [] 0 Values.empty registers
  rw [List.append_nil] at before
  rw [run, run, entries, runEntries_append]
  cases evaluated : evaluateEntries 0 Values.empty registers function.entries.toList with
  | error error => rfl
  | ok reached =>
      rw [before, evaluated]
      rfl

theorem run_foldl_build_of_constant [FloatArithmetic] (function : Function) {code : Code}
    (constant : code.Constant) (registers : RegisterFile) :
    (code.foldl build function).run registers = function.run registers := by
  induction code generalizing function with
  | nil => rfl
  | cons instruction rest induction =>
      rcases List.forall_mem_cons.mp constant with ⟨⟨immediate, rfl⟩, others⟩
      rw [List.foldl_cons, induction _ others, run_build_iconst]

theorem append_of_constant (function : Function) {code : Code} (constant : code.Constant) :
    CodeBuilder.append function code = code.foldl build function := by
  have same : code.map (Instruction.rename (· + CodeBuilder.valueCount function)) = code := by
    refine (List.map_congr_left ?_).trans (List.map_id code)
    intro instruction member
    rcases constant instruction member with ⟨immediate, rfl⟩
    rfl
  conv => rhs; rw [← same, List.foldl_map]
  rfl

theorem count_append_of_constant (function : Function) {code : Code} (constant : code.Constant)
    {opcode : Opcode} (other : opcode ≠ .iconst) :
    (CodeBuilder.append function code).count opcode = function.count opcode := by
  have absent : code.countP (fun instruction => instruction.opcode = opcode) = 0 := by
    rw [List.countP_eq_zero]
    intro instruction member
    rcases constant instruction member with ⟨immediate, rfl⟩
    exact fun same => other (of_decide_eq_true same).symm
  rw [append_of_constant function constant, count_eq_countP_code, code_foldl_build,
    List.countP_append, absent, Nat.add_zero, ← count_eq_countP_code]

end Function

end Lane

/-! ## Operands -/

namespace Guest

def Operands.vectorClass? : Operands → Option RegisterClass
  | .vectorPair operands => some operands.registers
  | .vectorTriple operands => some operands.registers
  | .vectorImmediate operands => some operands.registers
  | .bitfield _ | .scalarPair _ | .scalarTriple _ => none

theorem Operands.vectorClass?_of_scalar {operands : Operands}
    (scalar : operands.layout = .scalarPair ∨ operands.layout = .scalarTriple) :
    operands.vectorClass? = none := by
  cases operands with
  | scalarPair operands | scalarTriple operands => rfl
  | _ => rcases scalar with layout | layout <;> cases layout

def Operands.constantCode : Operands → Code
  | .vectorImmediate operands => [.iconst (.scalar .i64) operands.immediate]
  | _ => []

/-- A class lowers operands in its own layout, unless this is the one of bitfields or they are
an immediate that modifies its destination. -/
structure Mnemonic.Lowers (mnemonic : Mnemonic) (operands : Operands) : Prop where
  layout : operands.layout = mnemonic.layout
  notBitfield : operands.layout ≠ .bitfield
  immediate : ∀ immediate, operands = .vectorImmediate immediate →
    immediate.cmode % 2 = 1 → 12 ≤ immediate.cmode

/-- Why an instruction is not emitted: its class does not lower its operands, or lowers them
to lanes of registers that are not part of the vector file. -/
inductive Instruction.Fails (instruction : Instruction) : LiftError → Prop
  | configuration {registers : RegisterClass} :
      instruction.mnemonic.Lowers instruction.operands →
      instruction.operands.vectorClass? = some registers →
      registers = .general32 ∨ registers = .general64 →
      Fails instruction (.unsupportedConfiguration registers)
  | instruction :
      ¬instruction.mnemonic.Lowers instruction.operands →
      Fails instruction (.unsupportedInstruction instruction.address instruction.word
        instruction.mnemonic)

end Guest

/-! ## Plans -/

namespace Lifting

open Guest (ScalarPair ScalarTriple VectorImmediate VectorPair VectorTriple)

inductive Plan.Keeps (operands : Operands) : Plan → Prop
  | vector {form : VectorForm} {body : Body} :
      operands.vectorClass? = some form.shape.registers →
      form.constantCode = operands.constantCode → Keeps operands (.vector form body)
  | scalar {form : ScalarForm} {body : Body} :
      operands.vectorClass? = none → Keeps operands (.scalar form body)

theorem Shape.registers_ofReading (reading : LaneReading) (size : Nat)
    (registers : RegisterClass) : (ofReading reading size registers).registers = registers := by
  cases reading <;> rfl

section Keeps

variable {mnemonic : Mnemonic} {plan : Plan}

theorem keeps_of_pairPlan? {operands : VectorPair}
    (planned : pairPlan? mnemonic operands = some plan) : plan.Keeps (.vectorPair operands) := by
  cases mnemonic with
  | vabsV | vnegV =>
      rw [pairPlan?] at planned
      split at planned <;> cases planned <;>
        exact .vector (congrArg some (Shape.registers_ofReading _ _ _).symm) rfl
  | _ => cases planned

theorem keeps_of_triplePlan? {operands : VectorTriple}
    (planned : triplePlan? mnemonic operands = some plan) :
    plan.Keeps (.vectorTriple operands) := by
  cases mnemonic with
  | vmax | vmin =>
      rw [triplePlan?] at planned
      split at planned <;> cases planned <;>
        exact .vector (congrArg some (Shape.registers_ofReading _ _ _).symm) rfl
  | vaddI | vsubI | vmulI | vmlaI | vmlsI | vand | vorr | veor | vaddV | vsubV | vmulV | vmlaV
  | vmlsV =>
      cases planned
      exact .vector (congrArg some (Shape.registers_ofReading _ _ _).symm) rfl
  | _ => cases planned

theorem keeps_of_plan? {operands : Operands} (planned : plan? mnemonic operands = some plan) :
    plan.Keeps operands := by
  cases operands with
  | bitfield operands => cases planned
  | vectorPair operands => exact keeps_of_pairPlan? planned
  | vectorTriple operands => exact keeps_of_triplePlan? planned
  | scalarPair operands =>
      rw [plan?] at planned
      cases mnemonic <;> cases planned <;> exact .scalar rfl
  | scalarTriple operands =>
      rw [plan?] at planned
      cases mnemonic <;> cases planned <;> exact .scalar rfl
  | vectorImmediate operands =>
      rw [plan?, immediatePlan?] at planned
      split at planned
      · cases planned
        exact .vector rfl rfl
      · cases planned

end Keeps

theorem isSome_pairPlan? (mnemonic : Mnemonic) (operands : VectorPair) :
    (pairPlan? mnemonic operands).isSome = true ↔ mnemonic.layout = .vectorPair := by
  cases mnemonic <;> simp [pairPlan?, Mnemonic.layout, apply_ite Option.isSome]

theorem isSome_triplePlan? (mnemonic : Mnemonic) (operands : VectorTriple) :
    (triplePlan? mnemonic operands).isSome = true ↔ mnemonic.layout = .vectorTriple := by
  cases mnemonic <;> simp [triplePlan?, Mnemonic.layout, apply_ite Option.isSome]

theorem isSome_scalarPairPlan? (mnemonic : Mnemonic) (operands : ScalarPair) :
    (scalarPairPlan? mnemonic operands).isSome = true ↔ mnemonic.layout = .scalarPair := by
  cases mnemonic <;> simp [scalarPairPlan?, Mnemonic.layout]

theorem isSome_scalarTriplePlan? (mnemonic : Mnemonic) (operands : ScalarTriple) :
    (scalarTriplePlan? mnemonic operands).isSome = true ↔ mnemonic.layout = .scalarTriple := by
  cases mnemonic <;> simp [scalarTriplePlan?, Mnemonic.layout]

theorem isSome_immediatePlan? (mnemonic : Mnemonic) (operands : VectorImmediate) :
    (immediatePlan? mnemonic operands).isSome = true ↔
      mnemonic.layout = .vectorImmediate ∧ (operands.cmode % 2 = 1 → 12 ≤ operands.cmode) := by
  rw [← modifiesDestination_eq_false_iff]
  cases mnemonic <;> simp [immediatePlan?, Mnemonic.layout]

theorem isSome_plan?_iff (mnemonic : Mnemonic) (operands : Operands) :
    (plan? mnemonic operands).isSome = true ↔ mnemonic.Lowers operands := by
  constructor
  · intro planned
    cases operands with
    | bitfield operands => cases planned
    | vectorPair operands => exact ⟨((isSome_pairPlan? _ _).mp planned).symm, nofun, nofun⟩
    | vectorTriple operands => exact ⟨((isSome_triplePlan? _ _).mp planned).symm, nofun, nofun⟩
    | scalarPair operands => exact ⟨((isSome_scalarPairPlan? _ _).mp planned).symm, nofun, nofun⟩
    | scalarTriple operands =>
        exact ⟨((isSome_scalarTriplePlan? _ _).mp planned).symm, nofun, nofun⟩
    | vectorImmediate operands =>
        rcases (isSome_immediatePlan? _ _).mp planned with ⟨layout, keepsDestination⟩
        refine ⟨layout.symm, nofun, ?_⟩
        rintro _ ⟨⟩
        exact keepsDestination
  · intro lowers
    have layout := lowers.layout.symm
    cases operands with
    | bitfield operands => exact absurd rfl lowers.notBitfield
    | vectorPair operands => exact (isSome_pairPlan? _ _).mpr layout
    | vectorTriple operands => exact (isSome_triplePlan? _ _).mpr layout
    | scalarPair operands => exact (isSome_scalarPairPlan? _ _).mpr layout
    | scalarTriple operands => exact (isSome_scalarTriplePlan? _ _).mpr layout
    | vectorImmediate operands =>
        exact (isSome_immediatePlan? _ _).mpr ⟨layout, lowers.immediate operands rfl⟩

/-! ## Emissions -/

theorem VectorForm.placement?_eq_none_iff (form : VectorForm) :
    form.placement? = none ↔
      form.shape.registers = .general32 ∨ form.shape.registers = .general64 := by
  rw [placement?]
  cases form.shape.registers with
  | general32 | general64 => simp [RegisterClass.location?]
  | single | double | quad =>
      rw [show RegisterClass.location? _ = fun index => pure _ from rfl, List.mapM_pure]
      simp

theorem VectorForm.emission_of_placement?_eq_none {form : VectorForm}
    (absent : form.placement? = none) (body : Nat → Body) :
    form.emission body =
      { code := form.constantCode
        result := .error (.unsupportedConfiguration form.shape.registers) } := by
  rw [emission, absent]

theorem VectorForm.result_of_placement? {form : VectorForm} {placement : Placement}
    (placed : form.placement? = some placement) (body : Nat → Body) :
    (form.emission body).result = .ok () := by
  rw [emission, placed]

end Lifting

namespace Guest.Instruction

variable {instruction : Guest.Instruction}

theorem emission_of_not_lowers (refused : ¬instruction.mnemonic.Lowers instruction.operands) :
    instruction.emission = .refuse (.unsupportedInstruction instruction.address instruction.word
      instruction.mnemonic) := by
  rw [← Lifting.isSome_plan?_iff, Bool.not_eq_true, Option.isSome_eq_false_iff,
    Option.isNone_iff_eq_none] at refused
  rw [emission, refused]

theorem emission_of_configuration {registers : RegisterClass}
    (lowers : instruction.mnemonic.Lowers instruction.operands)
    (isVector : instruction.operands.vectorClass? = some registers)
    (outside : registers = .general32 ∨ registers = .general64) :
    instruction.emission.code = instruction.operands.constantCode ∧
      instruction.emission.result = .error (.unsupportedConfiguration registers) := by
  rcases Option.isSome_iff_exists.mp ((Lifting.isSome_plan?_iff _ _).mpr lowers) with
    ⟨plan, planned⟩
  rw [emission, planned]
  cases Lifting.keeps_of_plan? planned with
  | scalar notVector =>
      rw [notVector] at isVector
      cases isVector
  | @vector form body own constants =>
      rw [own, Option.some.injEq] at isVector
      rw [← isVector] at outside ⊢
      simp only [Lifting.Plan.emission, Lifting.VectorForm.emission_of_placement?_eq_none
        (form.placement?_eq_none_iff.mpr outside), constants, and_self]

theorem emission_of_fails {error : LiftError} (fails : instruction.Fails error) :
    instruction.emission.result = .error error := by
  cases fails with
  | configuration lowers isVector outside =>
      exact (emission_of_configuration lowers isVector outside).2
  | instruction refused => rw [emission_of_not_lowers refused, Lifting.Emission.refuse]

theorem emits_or_fails (instruction : Guest.Instruction) :
    instruction.emission.result = .ok () ∨ ∃ error, instruction.Fails error := by
  by_cases lowers : instruction.mnemonic.Lowers instruction.operands
  · rcases Option.isSome_iff_exists.mp ((Lifting.isSome_plan?_iff _ _).mpr lowers) with
      ⟨plan, planned⟩
    rw [emission, planned]
    cases Lifting.keeps_of_plan? planned with
    | scalar _ => exact .inl rfl
    | @vector form body isVector constants =>
        cases placed : form.placement? with
        | none =>
            exact .inr ⟨_, .configuration lowers isVector (form.placement?_eq_none_iff.mp placed)⟩
        | some placement =>
            exact .inl (Lifting.VectorForm.result_of_placement? placed _)
  · exact .inr ⟨_, .instruction lowers⟩

theorem emission_error_iff {error : LiftError} :
    instruction.emission.result = .error error ↔ instruction.Fails error := by
  refine ⟨fun failed => ?_, emission_of_fails⟩
  rcases instruction.emits_or_fails with emits | ⟨other, fails⟩
  · rw [emits] at failed
    cases failed
  · rw [emission_of_fails fails] at failed
    cases failed
    exact fails

theorem constant_constantCode (operands : Operands) : operands.constantCode.Constant := by
  intro instruction member
  cases operands with
  | vectorImmediate operands => exact ⟨operands.immediate, List.mem_singleton.mp member⟩
  | _ => cases member

theorem constant_of_fails {error : LiftError} (fails : instruction.Fails error) :
    instruction.emission.code.Constant := by
  cases fails with
  | configuration lowers isVector outside =>
      rw [(emission_of_configuration lowers isVector outside).1]
      exact constant_constantCode _
  | instruction refused =>
      rw [emission_of_not_lowers refused]
      exact fun _ member => nomatch member

end Guest.Instruction

/-- Whatever the operands of an instruction are, its emission fails for two reasons only. One is
that they are lanes of general-purpose registers: then the constant of an immediate is left and
nothing else. The other is that the class does not lower them: then nothing is left. Scalar
operands that are lowered are emitted, whatever their class. What a failed emission has left
commits nothing, and a run of it changes no register. -/
theorem emission_failing [FloatArithmetic] (instruction : Guest.Instruction) :
    (∀ error, instruction.emission.result = .error error ↔ instruction.Fails error) ∧
    (instruction.mnemonic.Lowers instruction.operands →
      instruction.operands.layout = .scalarPair ∨ instruction.operands.layout = .scalarTriple →
        instruction.emission.result = .ok ()) ∧
    (∀ registers, instruction.emission.result = .error (.unsupportedConfiguration registers) →
      instruction.emission.code = instruction.operands.constantCode) ∧
    (∀ address word mnemonic,
      instruction.emission.result = .error (.unsupportedInstruction address word mnemonic) →
        instruction.emission.code = []) ∧
    ∀ error, instruction.emission.result = .error error → ∀ function : Function,
      (CodeBuilder.append function instruction.emission.code).count .setBank =
        function.count .setBank ∧
      ∀ registers,
        (CodeBuilder.append function instruction.emission.code).run registers =
          function.run registers := by
  refine ⟨fun error => Guest.Instruction.emission_error_iff, ?_, ?_, ?_, ?_⟩
  · intro lowers scalar
    rcases instruction.emits_or_fails with emits | ⟨error, fails⟩
    · exact emits
    · cases fails with
      | configuration _ isVector _ =>
          rw [Operands.vectorClass?_of_scalar scalar] at isVector
          cases isVector
      | instruction refused => exact absurd lowers refused
  · intro registers failed
    cases Guest.Instruction.emission_error_iff.mp failed with
    | configuration lowers isVector outside =>
        exact (Guest.Instruction.emission_of_configuration lowers isVector outside).1
  · intro address word mnemonic failed
    cases Guest.Instruction.emission_error_iff.mp failed with
    | instruction refused =>
        rw [Guest.Instruction.emission_of_not_lowers refused, Lifting.Emission.refuse]
  · intro error failed function
    have constant :=
      Guest.Instruction.constant_of_fails (Guest.Instruction.emission_error_iff.mp failed)
    refine ⟨function.count_append_of_constant constant (by decide), fun registers => ?_⟩
    rw [function.append_of_constant constant, Function.run_foldl_build_of_constant _ constant]

/-- An immediate for a pair of general-purpose registers. -/
theorem emission_failing_general :
    let instruction : Guest.Instruction :=
      { mnemonic := .vmovI, address := 0, word := 0
        operands := .vectorImmediate
          { destination := 5, quad := false, op := 1, cmode := 14, imm8 := 0, immediate := 7,
            size := 31, registers := .general64 } }
    instruction.emission.result = .error (.unsupportedConfiguration .general64) ∧
      instruction.emission.code = [.iconst (.scalar .i64) 7] ∧
      ∀ registers,
        (CodeBuilder.append ({} : Function) instruction.emission.code).run registers =
          ⟨registers, .ok ()⟩ := by
  intro instruction
  rcases emission_failing instruction with ⟨fails, _, configuration, _, kept⟩
  have lowers : instruction.mnemonic.Lowers instruction.operands :=
    ⟨rfl, by decide, by rintro _ ⟨⟩ odd; cases odd⟩
  have failed := (fails _).mpr (.configuration lowers rfl (.inr rfl))
  exact ⟨failed, configuration _ failed, (kept _ failed {}).2⟩

end LaneLift
