import LaneLift.Guest.Operands
import LaneLift.Text.Hexadecimal

/-!
# Why a word is not lifted
-/

namespace LaneLift

open Guest (Address Mnemonic Word)

inductive LiftError where
  /-- Vector lanes in a class that is not part of the vector file. -/
  | unsupportedConfiguration (registers : RegisterClass)
  | unknownInstruction (address : Address) (word : Word)
  /-- The word decodes, but its class has no plan or is turned off. -/
  | unsupportedInstruction (address : Address) (word : Word) (mnemonic : Mnemonic)
  deriving DecidableEq, Repr

/-- An address without leading zeros. -/
def addressText (address : Address) : String :=
  "0x" ++ Hexadecimal.plain address.toNat

/-- A word with all eight digits. -/
def wordText (word : Word) : String :=
  "0x" ++ Hexadecimal.padded 8 word.toNat

def LiftError.message : LiftError → String
  | .unsupportedConfiguration registers =>
      "unsupported vector register configuration: " ++ registers.name
  | .unknownInstruction address word =>
      "unknown instruction " ++ wordText word ++ " at " ++ addressText address
  | .unsupportedInstruction address word mnemonic =>
      "unsupported instruction " ++ mnemonic.name ++ " (" ++ wordText word ++ ") at " ++
        addressText address

end LaneLift
