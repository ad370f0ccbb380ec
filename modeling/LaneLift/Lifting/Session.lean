import LaneLift.Lane.Builder
import LaneLift.Lifting.Block

/-!
# Building code step by step

A session drives a builder with single steps and keeps the values that the
steps have yielded, so that later steps can use them. A step can also read or
write a scalar register, or lift a whole word with every setting on.
-/

namespace LaneLift

open Guest (Address Word)
open Lane (CodeBuilder Typing ValueType)

/-- One step. Operands number the values that earlier steps have yielded. -/
inductive Step where
  | instruction (instruction : Lane.Instruction)
  | readScalar (type : ValueType) (register : Nat)
  | writeScalar (register value : Nat)
  | word (word : Word) (address : Address)
  deriving DecidableEq, Repr

/-- A builder, the builder's numbers of the values yielded so far, and what was
logged. -/
structure Session (β : Type) where
  builder : β
  values : Array Nat := #[]
  log : List Event := []

namespace Session

variable {β : Type} [CodeBuilder β]

def value (session : Session β) (index : Nat) : Nat :=
  session.values.getD index 0

def typeOf? (session : Session β) (index : Nat) : Option ValueType :=
  CodeBuilder.typeOf? session.builder (session.value index)

/-- Append code over the values yielded so far; the last value it makes is
yielded if asked for. -/
def append (session : Session β) (code : Lane.Code) (yields : Bool) : Session β :=
  let builder := code.foldl CodeBuilder.build session.builder
  { session with
    builder := builder
    values :=
      if yields then session.values.push (CodeBuilder.valueCount builder - 1)
      else session.values }

/-- Take a step; a word that is not lifted is an error. -/
def step (session : Session β) : Step → Session β × Except LiftError Unit
  | .instruction instruction =>
      (session.append [instruction.rename session.value] instruction.makesValue, .ok ())
  | .readScalar type register =>
      (session.append (Lifting.readScalar type register (CodeBuilder.valueCount session.builder))
        true, .ok ())
  | .writeScalar register index =>
      let type := (session.typeOf? index).getD .image
      (session.append (Lifting.writeScalar type register (session.value index)
        (CodeBuilder.valueCount session.builder)) false, .ok ())
  | .word word address =>
      let emission := liftWord {} address word
      ({ session with
          builder := CodeBuilder.append session.builder emission.code
          log := session.log ++ emission.log },
        emission.result)

end Session

/-- The body that a list of steps over operands of given types describes, where
values are typed by a rule. Its result is the last value that the operands and
the steps yield. -/
def Lifting.Body.ofSteps (typing : Typing) (operandTypes : List ValueType)
    (steps : List Step) : Lifting.Body :=
  let operands : Session (Lane.Draft typing) :=
    { builder := { types := operandTypes }
      values := (List.range operandTypes.length).toArray }
  let session := steps.foldl (fun session step => (session.step step).1) operands
  { code := session.builder.code
    result := session.value (session.values.size - 1)
    log := session.log }

end LaneLift
