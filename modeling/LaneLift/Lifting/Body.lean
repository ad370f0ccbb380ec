import LaneLift.Lane.Code
import LaneLift.Lifting.Event

/-!
# Bodies

A body is the arithmetic that an instruction performs on its operands: a piece
of lane code whose first values are the operands, given from outside. It is
written once and placed wherever its operands have been read.
-/

namespace LaneLift.Lifting

open Lane (Code Instruction Opcode Typing ValueType)

/-- Code over operands numbered from zero, and the value that is its result.
The values it makes are numbered behind the operands. -/
structure Body where
  code : Code
  result : Nat
  /-- What is logged every time the body is placed; arithmetic logs nothing. -/
  log : List Event := []
  deriving DecidableEq, Repr

namespace Body

def operand : Body where
  code := []
  result := 0

def unary (opcode : Opcode) : Body where
  code := [.unary opcode 0]
  result := 1

def binary (opcode : Opcode) : Body where
  code := [.binary opcode 0 1]
  result := 2

/-- Combine the first of three operands with the product of the other two. -/
def accumulate (multiply combine : Opcode) : Body where
  code := [.binary multiply 1 2, .binary combine 0 3]
  result := 4

/-- The outside number of a value of a body: operands are given, and the
values made are numbered from `start`. -/
def outside (operands : List Nat) (start value : Nat) : Nat :=
  if inside : value < operands.length then
    operands[value]
  else
    start + (value - operands.length)

/-- The code of a body over given operands, making its values from `start` on. -/
def place (body : Body) (operands : List Nat) (start : Nat) : Code :=
  body.code.map (Instruction.rename (outside operands start))

/-- The outside number of the result of a body. -/
def placedResult (body : Body) (operands : List Nat) (start : Nat) : Nat :=
  outside operands start body.result

/-- The type of the result under a rule, given the types of the operands. -/
def resultType? (typing : Typing) (body : Body) (operands : List ValueType) :
    Option ValueType :=
  (body.code.types typing operands)[body.result]?

@[simp] theorem valueCount_place (body : Body) (operands : List Nat) (start : Nat) :
    (body.place operands start).valueCount = body.code.valueCount := by
  simp [place, Code.valueCount, List.countP_map, Function.comp_def]

end Body

end LaneLift.Lifting
