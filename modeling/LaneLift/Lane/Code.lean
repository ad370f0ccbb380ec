import LaneLift.Lane.Instruction

/-!
# Pieces of lane code

A piece of code numbers the values it makes from zero, behind whatever values
it is given from outside.
-/

namespace LaneLift.Lane

abbrev Code := List Instruction

namespace Code

def valueCount (code : Code) : Nat :=
  code.countP Instruction.makesValue

/-- The types of all values after a piece of code under a rule, given the types
of the values before it. -/
def types (typing : Typing) (before : List ValueType) (code : Code) : List ValueType :=
  code.foldl (fun known instruction =>
    known ++ (typing (known[·]?) instruction).toList) before

@[simp] theorem valueCount_nil : valueCount [] = 0 := rfl

@[simp] theorem valueCount_append (first second : Code) :
    valueCount (first ++ second) = valueCount first + valueCount second :=
  List.countP_append

end Code

end LaneLift.Lane
