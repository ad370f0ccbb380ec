import LaneLift.Lifting.Block
import LaneLift.Proofs.Guest.Decode

/-!
# Lifting a word by its plan

A word that is found in the table, allowed and planned is lifted to the code of
its plan, and no other word is lifted.
-/

namespace LaneLift

open Guest (Address Row Word)
open Lifting (Plan plan?)

theorem Settings.allows_default (mnemonic : Guest.Mnemonic) :
    ({} : Settings).allows mnemonic = true := by
  cases mnemonic <;> rfl

section Words

variable {settings : Settings} {address : Address} {word : Word} {row : Row} {plan : Plan}

theorem liftWord_of_plan (found : Guest.lookup? word = some row)
    (allowed : settings.allows row.descriptor.mnemonic = true)
    (planned : plan? row.descriptor.mnemonic (row.descriptor.layout.decode word) = some plan) :
    (liftWord settings address word).code = plan.emission.code ∧
    (liftWord settings address word).result = plan.emission.result := by
  have emission : (row.descriptor.decode address word).emission = plan.emission := by
    simp only [Guest.Instruction.emission, Guest.Descriptor.decode, planned]
  have sameMnemonic : (row.descriptor.decode address word).mnemonic = row.descriptor.mnemonic :=
    rfl
  simp only [liftWord, found, sameMnemonic, allowed, if_true, emission, and_self]

theorem liftWord_of_not_found (absent : Guest.lookup? word = none) :
    (liftWord settings address word).code = [] ∧
    (liftWord settings address word).result = .error (.unknownInstruction address word) := by
  rw [liftWord, absent]
  exact ⟨rfl, rfl⟩

theorem liftWord_of_not_planned (found : Guest.lookup? word = some row)
    (unplanned : settings.allows row.descriptor.mnemonic = false ∨
      plan? row.descriptor.mnemonic (row.descriptor.layout.decode word) = none) :
    (liftWord settings address word).code = [] ∧
    (liftWord settings address word).result =
      .error (.unsupportedInstruction address word row.descriptor.mnemonic) := by
  have sameMnemonic : (row.descriptor.decode address word).mnemonic = row.descriptor.mnemonic :=
    rfl
  cases allowed : settings.allows row.descriptor.mnemonic with
  | false =>
      simp only [liftWord, found, sameMnemonic, allowed, Bool.false_eq_true, if_false, and_self]
  | true =>
      have none : plan? row.descriptor.mnemonic (row.descriptor.layout.decode word) = none := by
        rcases unplanned with disallowed | none
        · rw [allowed] at disallowed
          cases disallowed
        · exact none
      have emission : (row.descriptor.decode address word).emission =
          .refuse (.unsupportedInstruction address word row.descriptor.mnemonic) := by
        simp only [Guest.Instruction.emission, Guest.Descriptor.decode, none]
      simp only [liftWord, found, sameMnemonic, allowed, if_true, emission,
        Lifting.Emission.refuse, and_self]

theorem exists_plan (accepted : (liftWord settings address word).result = .ok ()) :
    ∃ row plan, Guest.lookup? word = some row ∧
      settings.allows row.descriptor.mnemonic = true ∧
      plan? row.descriptor.mnemonic (row.descriptor.layout.decode word) = some plan := by
  cases found : Guest.lookup? word with
  | none =>
      rw [(liftWord_of_not_found found).2] at accepted
      cases accepted
  | some row =>
      cases allowed : settings.allows row.descriptor.mnemonic with
      | false =>
          rw [(liftWord_of_not_planned found (.inl allowed)).2] at accepted
          cases accepted
      | true =>
          cases planned : plan? row.descriptor.mnemonic
              (row.descriptor.layout.decode word) with
          | none =>
              rw [(liftWord_of_not_planned found (.inr planned)).2] at accepted
              cases accepted
          | some plan => exact ⟨row, plan, rfl, allowed, planned⟩

theorem liftWord_elsewhere (accepted : (liftWord settings address word).result = .ok ())
    (other : Address) :
    (liftWord settings other word).result = .ok () ∧
    (liftWord settings other word).code = (liftWord settings address word).code := by
  rcases exists_plan accepted with ⟨row, plan, found, allowed, planned⟩
  rcases liftWord_of_plan found allowed planned with ⟨code, result⟩
  rcases liftWord_of_plan found allowed planned with ⟨codeThere, resultThere⟩
  constructor
  · rw [resultThere, ← result]
    exact accepted
  · rw [codeThere, ← code]

end Words

end LaneLift
