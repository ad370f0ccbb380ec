import LaneLift.Lane.Code

/-!
# Things that lane code is appended to

Lane code goes to several places: a function, a draft of a larger piece of
code, another code format. Each numbers the lane code values it has been given
consecutively from zero and knows their types.
-/

namespace LaneLift.Lane

/-- Something that lane code can be appended to, one instruction at a time. -/
class CodeBuilder (β : Type) where
  valueCount : β → Nat
  typeOf? : β → Nat → Option ValueType
  build : β → Instruction → β

namespace CodeBuilder

variable {β : Type} [CodeBuilder β]

/-- Append code that numbers its own values from zero. -/
def append (builder : β) (code : Code) : β :=
  let start := valueCount builder
  code.foldl (fun built instruction => build built (instruction.rename (· + start))) builder

/-- Append pieces of code, each numbering its own values from zero. -/
def appendAll (builder : β) (segments : List Code) : β :=
  segments.foldl append builder

end CodeBuilder

/-- A piece of code under construction, with the types that its values have under
a rule. The first values may be given from outside. -/
structure Draft (typing : Typing) where
  code : Code := []
  types : List ValueType := []
  deriving DecidableEq, Repr

instance (typing : Typing) : CodeBuilder (Draft typing) where
  valueCount draft := draft.types.length
  typeOf? draft value := draft.types[value]?
  build draft instruction :=
    { code := draft.code ++ [instruction]
      types := draft.types ++ (typing (draft.types[·]?) instruction).toList }

end LaneLift.Lane
