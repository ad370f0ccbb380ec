import LaneLift.Guest.Operands
import LaneLift.Lifting.Scalar
import LaneLift.Lifting.Vector

/-!
# Forms of decoded operands

The operands of each layout fill one or two forms. A ternary form gives the
body its destination first.
-/

namespace LaneLift.Guest

open Lifting (LaneReading ScalarForm Shape VectorForm)

def VectorPair.unaryForm (operands : VectorPair) (reading : LaneReading) : VectorForm where
  shape := .ofReading reading operands.size operands.registers
  destination := operands.destination
  sources := [operands.source]

def VectorTriple.binaryForm (operands : VectorTriple) (reading : LaneReading) : VectorForm where
  shape := .ofReading reading operands.size operands.registers
  destination := operands.destination
  sources := [operands.left, operands.right]

def VectorTriple.ternaryForm (operands : VectorTriple) (reading : LaneReading) :
    VectorForm where
  shape := .ofReading reading operands.size operands.registers
  destination := operands.destination
  sources := [operands.destination, operands.left, operands.right]

/-- The immediate is made once and given to the body for every lane; inserting
it truncates it to the element. -/
def VectorImmediate.form (operands : VectorImmediate) : VectorForm where
  shape := .integer operands.size operands.registers .unsigned
  destination := operands.destination
  sources := []
  constants := [operands.immediate]

def ScalarPair.unaryForm (operands : ScalarPair) : ScalarForm where
  type := .floatOfSize operands.size
  destination := operands.destination
  sources := [operands.source]

def ScalarTriple.binaryForm (operands : ScalarTriple) : ScalarForm where
  type := .floatOfSize operands.size
  destination := operands.destination
  sources := [operands.left, operands.right]

def ScalarTriple.ternaryForm (operands : ScalarTriple) : ScalarForm where
  type := .floatOfSize operands.size
  destination := operands.destination
  sources := [operands.destination, operands.left, operands.right]

end LaneLift.Guest
