import LaneLift.Lane.Run
import LaneLift.Lifting.Block

/-!
# Lifting and running one word at a time

Each word is lifted on its own and its code is run at once, over the registers
that the words before it have left. A word that is not lifted leaves them alone,
and the words after it are still stepped through.
-/

namespace LaneLift

open Guest (Address Word)

variable [FloatArithmetic]

/-- Run what an emission has left behind. -/
def Lifting.Emission.run (emission : Lifting.Emission) (registers : RegisterFile) :
    Lane.Outcome :=
  (Lane.CodeBuilder.append ({} : Lane.Function) emission.code).run registers

/-- What stepping through one word yields: the registers before it, how its run
ended or why it was not lifted, and what was logged. -/
structure WordStep where
  before : RegisterFile
  outcome : Except LiftError Lane.Outcome
  log : List Event

def WordStep.after (step : WordStep) : RegisterFile :=
  match step.outcome with
  | .ok outcome => outcome.registers
  | .error _ => step.before

def stepWord (settings : Settings) (address : Address) (word : Word)
    (registers : RegisterFile) : WordStep :=
  let emission := liftWord settings address word
  { before := registers
    outcome := emission.result.map fun _ => emission.run registers
    log := emission.log }

/-- Step through words, the first of which is word `index` of the block at
`address`. -/
def stepFrom (settings : Settings) (address : Address) (index : Nat)
    (registers : RegisterFile) : List Word → List WordStep
  | [] => []
  | word :: rest =>
      let step := stepWord settings (wordAddress address index) word registers
      step :: stepFrom settings address (index + 1) step.after rest

def stepWords (settings : Settings) (address : Address) (registers : RegisterFile)
    (words : List Word) : List WordStep :=
  stepFrom settings address 0 registers words

end LaneLift
