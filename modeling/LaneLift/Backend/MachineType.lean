import LaneLift.Lane.ValueType

/-!
# Types of backend values

The backend tells the six views of an image apart: every vector is 128 bits
wide and has a lane type. An image that is not being looked at is a vector of
bytes.
-/

namespace LaneLift.Backend

open Lane (ScalarType ValueType)

inductive MachineType where
  | scalar (type : ScalarType)
  | vector (lane : ScalarType)
  deriving DecidableEq, Repr

namespace MachineType

/-- The type of an image that is not being looked at. -/
@[reducible] def bytes : MachineType := .vector .i8

def width : MachineType → Nat
  | .scalar type => type.width
  | .vector _ => 128

/-- The type of one lane; a scalar is its own lane. -/
def lane : MachineType → ScalarType
  | .scalar type => type
  | .vector lane => lane

def isInteger (type : MachineType) : Bool :=
  type.lane.isInteger

/-- The integer of a scalar integer type. -/
def integer? : MachineType → Option ScalarType
  | .scalar type => if type.isInteger then some type else none
  | .vector _ => none

def name : MachineType → String
  | .scalar type => type.name
  | .vector lane => lane.name ++ "x" ++ toString lane.lanesPerBank

def ofValueType : ValueType → MachineType
  | .scalar type => .scalar type
  | .image => bytes

/-- The vector type that shows an image as lanes of a type. -/
def view : ValueType → MachineType
  | .scalar type => .vector type
  | .image => bytes

def valueType : MachineType → ValueType
  | .scalar type => .scalar type
  | .vector _ => .image

end MachineType

end LaneLift.Backend
