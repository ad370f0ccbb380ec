import LaneLift.Lane.Arithmetic
import LaneLift.Lane.Function
import LaneLift.Lane.Text
import LaneLift.Register.File

/-!
# Running lane code

A run goes through the instructions in order, keeping the values made so far
and the register file. An instruction either makes a value, commits an image to
a bank, or fails; a failing instruction ends the run and changes nothing, so
the commits before it stand.
-/

namespace LaneLift.Lane

inductive RunError where
  | bankOutOfRange (bank : Nat)
  | undefinedValue (value : Nat)
  | invalidType (position : Nat) (opcode : Opcode) (type : ValueType)
  | laneOutOfRange (position : Nat) (type : ValueType) (lane : Nat)
  deriving DecidableEq, Repr

def RunError.message : RunError → String
  | .bankOutOfRange bank => "bank " ++ bankText bank ++ " is outside the register file"
  | .undefinedValue value => valueText value ++ " is used before it is defined"
  | .invalidType position opcode type =>
      positionText position ++ ": " ++ opcode.name ++ " cannot operate on " ++ type.name
  | .laneOutOfRange position type lane =>
      positionText position ++ ": lane " ++ toString lane ++ " is out of range for " ++ type.name

abbrev Values := Nat → Option Datum

namespace Values

def empty : Values := fun _ => none

/-- Record what an instruction has made under its result number, if it has one. -/
def define (values : Values) (result : Option Nat) (datum : Datum) : Values :=
  match result with
  | none => values
  | some value => fun other => if other = value then some datum else values other

end Values

inductive Effect where
  | make (datum : Datum)
  | commit (bank : Fin bankCount) (image : Image)
  deriving DecidableEq, Repr

def operand (values : Values) (value : Nat) : Except RunError Datum :=
  match values value with
  | some datum => .ok datum
  | none => .error (.undefinedValue value)

/-- The lane type of an instruction that reads or writes lane `lane`. -/
def laneType (position : Nat) (opcode : Opcode) (type : ValueType) (lane : Nat) :
    Except RunError ScalarType :=
  match type with
  | .image => .error (.invalidType position opcode .image)
  | .scalar scalar =>
      if lane < scalar.lanesPerBank then
        .ok scalar
      else
        .error (.laneOutOfRange position type lane)

/-- An operand that has to be an image. -/
def imageOperand (position : Nat) (opcode : Opcode) : Datum → Except RunError Image
  | .image content => .ok content
  | .scalar type _ => .error (.invalidType position opcode (.scalar type))

/-- A result that exists only for fitting types. -/
def makeOr (position : Nat) (opcode : Opcode) (type : ValueType) :
    Option Datum → Except RunError Effect
  | some datum => .ok (.make datum)
  | none => .error (.invalidType position opcode type)

variable [FloatArithmetic]

/-- The effect of the instruction at a position. Operands are looked up before
their types are checked, and the lane or bank number is checked last. -/
def Instruction.effect (position : Nat) (values : Values) (registers : RegisterFile)
    (instruction : Instruction) : Except RunError Effect :=
  let opcode := instruction.opcode
  match instruction with
  | .getBank bank =>
      match registers.bank? bank with
      | some content => .ok (.make (.image content))
      | none => .error (.bankOutOfRange bank)
  | .setBank bank image => do
      let content ← imageOperand position opcode (← operand values image)
      if inside : bank < bankCount then
        .ok (.commit ⟨bank, inside⟩ content)
      else
        .error (.bankOutOfRange bank)
  | .extractLane type image lane => do
      let content ← imageOperand position opcode (← operand values image)
      let scalar ← laneType position opcode type lane
      .ok (.make (.scalar scalar (content.lane scalar.width lane)))
  | .insertLane type image value lane => do
      let content ← imageOperand position opcode (← operand values image)
      let datum ← operand values value
      let scalar ← laneType position opcode type lane
      match datum.bits? with
      | some bits => .ok (.make (.image (content.setLane lane (bits.setWidth scalar.width))))
      | none => .error (.invalidType position opcode datum.type)
  | .iconst type immediate => makeOr position opcode type (Datum.ofBits? type immediate)
  | .f32const pattern => .ok (.make (.scalar .f32 pattern))
  | .f64const pattern => .ok (.make (.scalar .f64 pattern))
  | .extend _ type argument => do
      let datum ← operand values argument
      let wide := if opcode = .sextend then datum.signed? else datum.unsigned?
      match wide with
      | some bits => makeOr position opcode type (Datum.ofBits? type bits)
      | none => .error (.invalidType position opcode datum.type)
  | .unary _ argument => do
      let datum ← operand values argument
      makeOr position opcode datum.type (datum.unary? opcode)
  | .binary _ left right => do
      let x ← operand values left
      let y ← operand values right
      if x.type = y.type then
        makeOr position opcode x.type (x.binary? opcode y)
      else
        .error (.invalidType position opcode y.type)

/-- How a run ends: the register file, and the error that stopped it if any. -/
structure Outcome where
  registers : RegisterFile
  status : Except RunError Unit

/-- Run entries, the first of which stands at a position. -/
def runEntries (position : Nat) (values : Values) (registers : RegisterFile) :
    List Entry → Outcome
  | [] => ⟨registers, .ok ()⟩
  | entry :: rest =>
      match entry.instruction.effect position values registers with
      | .error error => ⟨registers, .error error⟩
      | .ok (.make datum) =>
          runEntries (position + 1) (values.define entry.result datum) registers rest
      | .ok (.commit bank image) =>
          runEntries (position + 1) values (registers.setBank bank image) rest

def Function.run (function : Function) (registers : RegisterFile) : Outcome :=
  runEntries 0 Values.empty registers function.entries.toList

end LaneLift.Lane
