import LaneLift.Backend.Instruction

/-!
# Backend functions

A function is one block of instructions that takes the state pointer and ends
in a return. Every value but the state pointer is made by an instruction.
-/

namespace LaneLift.Backend

open Lane (ScalarType)

/-- An instruction of a function, and the number of the value it makes. -/
structure Entry where
  instruction : Instruction
  result : Option Nat
  deriving DecidableEq, Repr

/-- What a function knows of a value: its type, and the instruction that makes
it, which the state pointer lacks. -/
structure Definition where
  type : MachineType
  instruction : Option Instruction
  deriving DecidableEq, Repr

structure Function where
  entries : Array Entry := #[]
  definitions : Array Definition := #[⟨.scalar .i64, none⟩]
  deriving DecidableEq, Repr

namespace Function

def typeOf? (function : Function) (value : Nat) : Option MachineType :=
  function.definitions[value]?.map Definition.type

def definition? (function : Function) (value : Nat) : Option Instruction :=
  function.definitions[value]?.bind Definition.instruction

end Function

abbrev Append := StateM Function

namespace Append

/-- Append an instruction that makes a value of a type; the answer is its number. -/
def make (instruction : Instruction) (type : MachineType) : Append Nat :=
  fun function => (function.definitions.size,
    { entries := function.entries.push ⟨instruction, some function.definitions.size⟩
      definitions := function.definitions.push ⟨type, some instruction⟩ })

def perform (instruction : Instruction) : Append Unit :=
  fun function => ((), { function with entries := function.entries.push ⟨instruction, none⟩ })

/-- The type of a value; one that was never made counts as bytes. -/
def typeOf (value : Nat) : Append MachineType :=
  fun function => ((function.typeOf? value).getD .bytes, function)

end Append

/-- End the block of a function. -/
def Function.close (function : Function) : Function :=
  ((Append.perform .leave).run function).2

theorem Function.entries_close (function : Function) :
    function.close.entries.toList = function.entries.toList ++ [⟨.leave, none⟩] := by
  simp [close, Append.perform, StateT.run]

end LaneLift.Backend
