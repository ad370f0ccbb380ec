import LaneLift.Lane.Builder

/-!
# Functions of lane code

A function collects instructions and numbers the values they make, from zero
in program order.
-/

namespace LaneLift.Lane

/-- An instruction of a function, and the number of the value it makes. -/
structure Entry where
  instruction : Instruction
  result : Option Nat
  deriving DecidableEq, Repr

/-- What a function knows of a value: its type and the instruction that makes it. -/
structure Definition where
  type : ValueType
  position : Nat
  deriving DecidableEq, Repr

structure Function where
  name : String := ""
  entries : Array Entry := #[]
  definitions : Array Definition := #[]
  deriving DecidableEq, Repr

namespace Function

/-- Append an instruction; with a type it makes the next value. -/
def push (function : Function) (instruction : Instruction) (result : Option ValueType) :
    Function :=
  match result with
  | none => { function with entries := function.entries.push ⟨instruction, none⟩ }
  | some type =>
      let position := function.entries.size
      let value := function.definitions.size
      { function with
        entries := function.entries.push ⟨instruction, some value⟩
        definitions := function.definitions.push ⟨type, position⟩ }

/-- Forget every instruction and value; the name stays. -/
def clear (function : Function) : Function :=
  { function with entries := #[], definitions := #[] }

def rename (function : Function) (name : String) : Function :=
  { function with name := name }

def size (function : Function) : Nat :=
  function.entries.size

def valueCount (function : Function) : Nat :=
  function.definitions.size

def instruction? (function : Function) (position : Nat) : Option Instruction :=
  function.entries[position]?.map Entry.instruction

def result? (function : Function) (position : Nat) : Option Nat :=
  function.entries[position]?.bind Entry.result

def typeOf? (function : Function) (value : Nat) : Option ValueType :=
  function.definitions[value]?.map Definition.type

def definedAt? (function : Function) (value : Nat) : Option Nat :=
  function.definitions[value]?.map Definition.position

def code (function : Function) : Code :=
  function.entries.toList.map Entry.instruction

def count (function : Function) (opcode : Opcode) : Nat :=
  function.entries.toList.countP fun entry => entry.instruction.opcode = opcode

/-- Append an instruction; whether it makes a value, and of which type,
follows from the instruction. -/
def build (function : Function) (instruction : Instruction) : Function :=
  function.push instruction (instruction.resultType? function.typeOf?)

end Function

instance : CodeBuilder Function where
  valueCount := Function.valueCount
  typeOf? := Function.typeOf?
  build := Function.build

end LaneLift.Lane
