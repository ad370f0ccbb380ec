import LaneLift.Backend.Builder
import LaneLift.Backend.Check
import LaneLift.Lifting.Block

/-!
# Compiling blocks to backend functions

A block becomes a function numbered by the low half of its address. If the
settings ask for it the function is checked before it is handed out.
-/

namespace LaneLift.Backend

open Guest (Address Word)

inductive BlockError where
  | lift (error : LiftError)
  | rejected
  deriving DecidableEq, Repr

/-- Close a function and hand it out, checked if the settings ask for it. -/
def finish (settings : Settings) (function : Function) : Except BlockError Function :=
  if settings.verifier && !function.close.check then .error .rejected else .ok function.close

def functionNumber (address : Address) : Nat :=
  (address.setWidth 32).toNat

/-- Lift consecutive words and compile them into a function; the log comes with it. -/
def compileBlock (settings : Settings) (address : Address) (words : List Word) :
    Except BlockError Function × List Event :=
  let block := LaneLift.liftBlock settings address words
  match block.result with
  | .error error => (.error (.lift error), block.log)
  | .ok count =>
      (finish settings (Lane.CodeBuilder.appendAll ({} : Builder) block.segments).function,
        block.log ++ [.built address (functionNumber address) count])

end LaneLift.Backend
