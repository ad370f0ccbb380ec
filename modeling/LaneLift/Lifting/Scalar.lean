import LaneLift.Lifting.Body
import LaneLift.Lifting.Emission

/-!
# Scalar registers and VFP instructions

A value of type `f64` belongs in a `D` register and a value of any other type in
an `S` register. Reading one takes a lane out of a fresh image of its bank;
writing one puts a lane into a fresh image and commits it, so the neighbours in
the bank are kept as they are at that moment.
-/

namespace LaneLift.Lifting

open Lane (Code ScalarType Typing ValueType)

/-- Where the register numbered `register` for values of a type lies. -/
def scalarLocation (type : ValueType) (register : Nat) : Location :=
  if type = .scalar .f64 then .ofDouble register else .ofSingle register

/-- Read a register as a value of a type; values are numbered from `next`, and
the second one made is the register. -/
def readScalar (type : ValueType) (register next : Nat) : Code :=
  let location := scalarLocation type register
  [.getBank location.bank, .extractLane type next location.position]

/-- Write a value of a type to a register; values are numbered from `next`. -/
def writeScalar (type : ValueType) (register value next : Nat) : Code :=
  let location := scalarLocation type register
  [.getBank location.bank, .insertLane type next value location.position,
    .setBank location.bank (next + 1)]

/-- A VFP instruction up to its arithmetic. -/
structure ScalarForm where
  type : ScalarType
  destination : Nat
  /-- The registers that the body is given; the destination is among them if it
  is read. -/
  sources : List Nat
  /-- The type of the body's result, which decides what kind of register is
  written. The instructions keep the type of their operands. -/
  resultType : ValueType := .scalar type
  deriving DecidableEq, Repr

namespace ScalarForm

def operandTypes (form : ScalarForm) : List ValueType :=
  form.sources.map fun _ => .scalar form.type

/-- The form with the result type that a body has under a rule. -/
def writing (form : ScalarForm) (typing : Typing) (body : Body) : ScalarForm :=
  { form with resultType := (body.resultType? typing form.operandTypes).getD form.resultType }

def emission (form : ScalarForm) (body : Body) : Emission :=
  let count := form.sources.length
  let reads := form.sources.zipIdx.flatMap fun (source, index) =>
    readScalar (.scalar form.type) source (2 * index)
  let operands := (List.range count).map fun index => 2 * index + 1
  let start := 2 * count
  { code := reads ++ body.place operands start ++
      writeScalar form.resultType form.destination (body.placedResult operands start)
        (start + body.code.valueCount)
    log := .scalar form.type form.destination form.sources :: body.log
    result := .ok () }

end ScalarForm

end LaneLift.Lifting
