import LaneLift.Backend.Function
import LaneLift.Lane.Builder

/-!
# Backend code from lane code

Every instruction of lane code becomes a few backend instructions. Images are
kept as vectors of bytes and reinterpreted around each access to a lane; a
value inserted into a lane is first brought to the lane's type.
-/

namespace LaneLift.Backend

open Lane (ValueType)

namespace Append

/-- A value seen as a type; nothing is appended if it has that type. -/
def reinterpret (type : MachineType) (value : Nat) : Append Nat := do
  if (← typeOf value) = type then
    return value
  else
    make (.bitcast .little type value) type

/-- A value brought to a lane's type: a wider integer keeps its low bits, a
narrower one is zero-extended, and anything else keeps its bits. -/
def convert (type : MachineType) (value : Nat) : Append Nat := do
  let own ← typeOf value
  if own = type then
    return value
  else
    match own.integer?, type.integer? with
    | some source, some target =>
        if target.width < source.width then
          make (.ireduce type value) type
        else
          make (.uextend type value) type
    | _, _ => reinterpret type value

/-- Append an instruction of lane code whose values go by backend numbers. -/
def compile (names : Nat → Nat) : Lane.Instruction → Append (Option Nat)
  | .getBank bank => some <$> make (.load (Instruction.bankOffset bank)) .bytes
  | .setBank bank image => do
      let value ← reinterpret .bytes (names image)
      perform (.store value (Instruction.bankOffset bank))
      return none
  | .extractLane type image lane => do
      let vector ← reinterpret (.view type) (names image)
      some <$> make (.extractLane vector lane) (.scalar (MachineType.view type).lane)
  | .insertLane type image value lane => do
      let converted ← convert (.ofValueType type) (names value)
      let vector ← reinterpret (.view type) (names image)
      let inserted ← make (.insertLane vector converted lane) (.view type)
      some <$> reinterpret .bytes inserted
  | .iconst type immediate =>
      let machineType := .ofValueType type
      some <$> make (.iconst machineType immediate) machineType
  | .f32const pattern => some <$> make (.f32const pattern) (.scalar .f32)
  | .f64const pattern => some <$> make (.f64const pattern) (.scalar .f64)
  | .extend opcode type argument =>
      let machineType := .ofValueType type
      let value := names argument
      some <$> make (if opcode = .sextend then .sextend machineType value
        else .uextend machineType value) machineType
  | .unary opcode argument => do
      let value := names argument
      some <$> make (.unary opcode value) (← typeOf value)
  | .binary opcode left right => do
      let value := names left
      some <$> make (.binary opcode value (names right)) (← typeOf value)

end Append

/-- The lane code type of the value that an instruction of lane code becomes. Only
an image taken out of an image differs from lane code: it becomes a byte. -/
def typing : Lane.Typing
  | _, .extractLane type _ _ => some (.scalar (MachineType.view type).lane)
  | typeOf?, instruction => instruction.resultType? typeOf?

/-- A function under construction, and the backend number of every lane code
value appended so far. -/
structure Builder where
  function : Function := {}
  numbers : Array Nat := #[]
  deriving DecidableEq, Repr

namespace Builder

def valueCount (builder : Builder) : Nat :=
  builder.numbers.size

/-- The backend number of a lane code value; one that was never made goes by
the number of the state pointer. -/
def number (builder : Builder) (value : Nat) : Nat :=
  builder.numbers.getD value Instruction.statePointer

def typeOf? (builder : Builder) (value : Nat) : Option ValueType :=
  builder.numbers[value]?.bind fun number =>
    (builder.function.typeOf? number).map MachineType.valueType

def build (builder : Builder) (instruction : Lane.Instruction) : Builder :=
  match (Append.compile builder.number instruction).run builder.function with
  | (none, function) => { builder with function := function }
  | (some number, function) => ⟨function, builder.numbers.push number⟩

end Builder

instance : Lane.CodeBuilder Builder where
  valueCount := Builder.valueCount
  typeOf? := Builder.typeOf?
  build := Builder.build

end LaneLift.Backend
