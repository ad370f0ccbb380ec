import LaneLift.Lifting.Shape
import LaneLift.Lifting.Error

/-!
# The log of lifting
-/

namespace LaneLift

open Guest (Address Mnemonic Word)
open Lane (ScalarType)
open Lifting (LaneReading)

inductive LogLevel where
  | warn
  | debug
  | trace
  deriving DecidableEq, Repr

def LogLevel.name : LogLevel → String
  | .warn => "WARN"
  | .debug => "DEBUG"
  | .trace => "TRACE"

/-- Something worth noting while words are lifted. -/
inductive Event where
  | instruction (address : Address) (mnemonic : Mnemonic) (word : Word)
  /-- The settings turn an instruction's class off. -/
  | disabled (address : Address) (mnemonic : Mnemonic) (word : Word)
  /-- A vector instruction has found its destination and the banks it reads. -/
  | lanes (count : Nat) (type : ScalarType) (reading : LaneReading) (destination : Location)
      (banks : List Nat)
  /-- A scalar instruction has read its sources. -/
  | scalar (type : ScalarType) (destination : Nat) (sources : List Nat)
  | block (address : Address) (count : Nat)
  /-- A block has been compiled to a backend function, named by a number. -/
  | built (address : Address) (function : Nat) (count : Nat)
  deriving DecidableEq, Repr

namespace Event

def level : Event → LogLevel
  | .disabled _ _ _ => .warn
  | .instruction _ _ _ | .block _ _ | .built _ _ _ => .debug
  | .lanes _ _ _ _ _ | .scalar _ _ _ => .trace

private def commaSeparated (numbers : List Nat) : String :=
  ", ".intercalate (numbers.map toString)

private def instructionText (address : Address) (mnemonic : Mnemonic) (word : Word) : String :=
  addressText address ++ ": " ++ mnemonic.name ++ " (" ++ wordText word ++ ")"

def message : Event → String
  | .instruction address mnemonic word => instructionText address mnemonic word
  | .disabled address mnemonic word =>
      instructionText address mnemonic word ++ " is disabled by settings"
  | .lanes count type reading destination banks =>
      "lanes: " ++ toString count ++ " x " ++ type.name ++ " " ++ reading.name ++ " into q" ++
        toString destination.bank ++ "[" ++ toString destination.position ++ "] from [" ++
        commaSeparated banks ++ "]"
  | .scalar type destination sources =>
      "scalar: " ++ type.name ++ " s/d" ++ toString destination ++ " <- " ++
        commaSeparated sources
  | .block address count =>
      addressText address ++ ": translated " ++ toString count ++ " instructions"
  | .built address function count =>
      addressText address ++ ": built u0:" ++ toString function ++ " for " ++ toString count ++
        " instructions"

def line (event : Event) : String :=
  event.level.name ++ " " ++ event.message

end Event

end LaneLift
