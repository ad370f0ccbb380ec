import LaneLift.Lane.Code
import LaneLift.Lifting.Event

/-!
# What lifting an instruction yields
-/

namespace LaneLift.Lifting

/-- The lane code emitted for an instruction, numbered from zero, what was
logged meanwhile, and how the emission ended. Code can be left behind by an
emission that ends in an error. -/
structure Emission where
  code : Lane.Code := []
  log : List Event := []
  result : Except LiftError Unit

def Emission.refuse (error : LiftError) : Emission where
  result := .error error

end LaneLift.Lifting
