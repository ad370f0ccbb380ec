import LaneLift.Lane.ValueType
import LaneLift.Register.Class

/-!
# Lane geometry of a vector instruction
-/

namespace LaneLift.Lifting

open Lane (ScalarType)

/-- How a source lane reaches the arithmetic. -/
inductive LaneReading where
  | float
  /-- Sign-extended to `i64`. -/
  | signed
  /-- Zero-extended to `i64`. -/
  | unsigned
  deriving DecidableEq, Repr

def LaneReading.name : LaneReading → String
  | .float => "Float"
  | .signed => "Signed"
  | .unsigned => "Unsigned"

structure Shape where
  type : ScalarType
  lanes : Nat
  registers : RegisterClass
  reading : LaneReading
  deriving DecidableEq, Repr

namespace Shape

/-- Float lanes; the low bit of `size` selects double precision. -/
def float (size : Nat) (registers : RegisterClass) : Shape where
  type := .floatOfSize size
  lanes := registers.bytes >>> (size % 2 + 2)
  registers := registers
  reading := .float

/-- Integer lanes of `2 ^ size` bytes. -/
def integer (size : Nat) (registers : RegisterClass) (reading : LaneReading) : Shape where
  type := .integerOfSize size
  lanes := registers.bytes >>> size
  registers := registers
  reading := reading

def ofReading (reading : LaneReading) (size : Nat) (registers : RegisterClass) : Shape :=
  match reading with
  | .float => float size registers
  | reading => integer size registers reading

/-- The lane of its bank that lane `index` of a register at `position` is. -/
def lane (shape : Shape) (index position : Nat) : Nat :=
  index + position * shape.lanes

/-- The type in which a lane reaches the arithmetic. -/
def operandType (shape : Shape) : ScalarType :=
  if shape.reading = .float then shape.type else .i64

/-- Are source lanes extended to `i64` before they are combined? -/
def widens (shape : Shape) : Bool :=
  shape.reading ≠ .float && shape.type ≠ .i64

example : (float 0b10 .quad).lanes = 4 := rfl
example : (float 0b11 .quad).lanes = 2 := rfl
example : (integer 1 .double .signed).lanes = 4 := rfl
example : (float 0 .double).lane 1 1 = 3 := rfl

end Shape

end LaneLift.Lifting
