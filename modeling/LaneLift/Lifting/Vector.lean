import LaneLift.Lifting.Body
import LaneLift.Lifting.Emission

/-!
# Vector instructions

A vector instruction reads every bank it needs once, works through the lanes of
its destination in ascending order, and commits the destination's bank once, at
the end. Source lanes are always taken from the images read at the start, so an
instruction sees its sources as they were before it. Lanes of the bank that do
not belong to the destination are carried along unchanged.
-/

namespace LaneLift.Lifting

open Lane (Code ValueType)

/-- A vector instruction up to its arithmetic. -/
structure VectorForm where
  shape : Shape
  destination : Nat
  /-- The registers whose lanes the body is given; the destination is among
  them if it is read. -/
  sources : List Nat
  /-- Constants made before anything is read and given to the body first. -/
  constants : List (BitVec 64) := []
  deriving DecidableEq, Repr

structure Placement where
  destination : Location
  sources : List Location
  deriving DecidableEq, Repr

/-- The banks read, each once, the destination's first. -/
def Placement.banks (placement : Placement) : List Nat :=
  (placement.destination.bank :: placement.sources.map Location.bank).eraseDups

namespace Shape

def valuesPerRead (shape : Shape) : Nat :=
  if shape.widens then 2 else 1

/-- Read a lane of an image; the last value made, numbered from `next`, is the
lane as a body is given it. -/
def read (shape : Shape) (image lane next : Nat) : Code :=
  let extract := .extractLane (.scalar shape.type) image lane
  if shape.widens then
    [extract, .extend (if shape.reading = .signed then .sextend else .uextend)
      (.scalar .i64) next]
  else
    [extract]

end Shape

namespace VectorForm

/-- Where the registers lie, if their class is part of the vector file. -/
def placement? (form : VectorForm) : Option Placement := do
  let destination ← form.shape.registers.location? form.destination
  let sources ← form.sources.mapM form.shape.registers.location?
  some ⟨destination, sources⟩

def operandTypes (form : VectorForm) : List ValueType :=
  form.constants.map (fun _ => .scalar .i64) ++
    form.sources.map fun _ => .scalar form.shape.operandType

def constantCode (form : VectorForm) : Code :=
  form.constants.map (.iconst (.scalar .i64))

def imageOf (form : VectorForm) (placement : Placement) (bank : Nat) : Nat :=
  form.constants.length + placement.banks.idxOf bank

/-- The code for lane `index` of the destination, making values from `next` on:
read the source lanes, place the body, insert its result into `image`. -/
def laneCode (form : VectorForm) (placement : Placement) (body : Body)
    (index next image : Nat) : Code :=
  let shape := form.shape
  let perRead := shape.valuesPerRead
  let reads := placement.sources.zipIdx.flatMap fun (source, count) =>
    shape.read (form.imageOf placement source.bank) (shape.lane index source.position)
      (next + perRead * count)
  let operands := List.range form.constants.length ++
    (List.range placement.sources.length).map fun count => next + perRead * count + (perRead - 1)
  let start := next + perRead * placement.sources.length
  reads ++ body.place operands start ++
    [.insertLane (.scalar shape.type) image (body.placedResult operands start)
      (shape.lane index placement.destination.position)]

/-- The code for the remaining lanes of the destination and the commit. Each
lane is inserted into the image that the lane before it has left. -/
def lanesCode (form : VectorForm) (placement : Placement) (body : Nat → Body) :
    (remaining : List Nat) → (next image : Nat) → Code
  | [], _, image => [.setBank placement.destination.bank image]
  | index :: remaining, next, image =>
      let lane := form.laneCode placement (body index) index next image
      let inserted := next + (lane.valueCount - 1)
      lane ++ form.lanesCode placement body remaining (inserted + 1) inserted

/-- Emit a vector instruction with a body for every lane. The class of its
registers is checked before any bank is read, but after the constants. -/
def emission (form : VectorForm) (body : Nat → Body) : Emission :=
  match form.placement? with
  | none =>
      { code := form.constantCode
        result := .error (.unsupportedConfiguration form.shape.registers) }
  | some placement =>
      let banks := placement.banks
      { code := form.constantCode ++ banks.map .getBank ++
          form.lanesCode placement body (List.range form.shape.lanes)
            (form.constants.length + banks.length)
            (form.imageOf placement placement.destination.bank)
        log := .lanes form.shape.lanes form.shape.type form.shape.reading placement.destination
            banks ::
          (List.range form.shape.lanes).flatMap fun index => (body index).log
        result := .ok () }

end VectorForm

end LaneLift.Lifting
