import LaneLift.Lifting.Form
import LaneLift.Proofs.Guest.Decode
import LaneLift.Proofs.Lifting.Vector
import Mathlib.Tactic.Ring

/-!
# Vector instructions lane by lane

A vector instruction computes every lane of its destination from the same lanes
of its sources, all as they were before the instruction, and changes no byte
outside of its destination. This holds for any registers, overlapping or not,
and for any bodies that compute a scalar from the lanes they are given.
-/

namespace LaneLift

namespace RegisterClass

def locate (registers : RegisterClass) (index : Nat) : Location :=
  (registers.location? index).getD ⟨0, 0⟩

variable {registers : RegisterClass}

theorem location?_eq_locate (vector : registers = .double ∨ registers = .quad) :
    registers.location? = fun index => some (registers.locate index) := by
  rcases vector with rfl | rfl <;> rfl

theorem locate_inside (vector : registers = .double ∨ registers = .quad) {index : Nat}
    (inside : index < 32) :
    (registers.locate index).bank < bankCount ∧
      registers.bytes * ((registers.locate index).position + 1) ≤ 16 := by
  rcases vector with rfl | rfl <;>
    simp only [locate, location?, Location.ofDouble, Location.ofQuad, Option.getD_some,
      bytes, bankCount] <;>
    omega

theorem offset_eq_locate (vector : registers = .double ∨ registers = .quad) (index : Nat) :
    registers.offset index =
      16 * (registers.locate index).bank + registers.bytes * (registers.locate index).position :=
  offset_eq_location (congrFun (location?_eq_locate vector) index)

end RegisterClass

namespace Lifting

open Lane (Code Datum ScalarType)

namespace Shape

def Fills (shape : Shape) : Prop :=
  8 * shape.registers.bytes = shape.type.width * shape.lanes

theorem fills_ofReading {reading : LaneReading} {size : Nat} {registers : RegisterClass}
    (vector : registers = .double ∨ registers = .quad) (small : size < 4) :
    (ofReading reading size registers).Fills := by
  have sizes : size = 0 ∨ size = 1 ∨ size = 2 ∨ size = 3 := by omega
  rcases vector with rfl | rfl <;> cases reading <;> rcases sizes with rfl | rfl | rfl | rfl <;> rfl

theorem isInteger_ofReading {reading : LaneReading} {size : Nat} {registers : RegisterClass}
    (notFloat : (ofReading reading size registers).reading ≠ .float) :
    (ofReading reading size registers).type.isInteger = true := by
  have isInteger : (ScalarType.integerOfSize size).isInteger = true := by
    rw [ScalarType.integerOfSize]
    split <;> rfl
  cases reading with
  | float => exact absurd rfl notFloat
  | signed | unsigned => exact isInteger

theorem eight_dvd_width (shape : Shape) : 8 ∣ shape.type.width :=
  shape.type.eight_dvd_width

variable {shape : Shape}

theorem mul_lane_add_le (fills : shape.Fills) {index position : Nat} (inside : index < shape.lanes)
    (fits : shape.registers.bytes * (position + 1) ≤ 16) :
    shape.type.width * shape.lane index position + shape.type.width ≤ 128 := by
  calc
    shape.type.width * shape.lane index position + shape.type.width =
        shape.type.width * (index + 1 + position * shape.lanes) := by
      rw [lane]
      ring
    _ ≤ shape.type.width * (shape.lanes + position * shape.lanes) :=
      Nat.mul_le_mul_left _ (by omega)
    _ = 8 * (shape.registers.bytes * (position + 1)) := by
      rw [← Nat.mul_assoc, fills]
      ring
    _ ≤ 128 := by omega

theorem lane_lt_lanesPerBank (fills : shape.Fills) {index position : Nat}
    (inside : index < shape.lanes) (fits : shape.registers.bytes * (position + 1) ≤ 16) :
    shape.lane index position < shape.type.lanesPerBank := by
  have bound := mul_lane_add_le fills inside fits
  rw [← Nat.mul_succ, ← shape.type.width_mul_lanesPerBank] at bound
  exact Nat.le_of_mul_le_mul_left bound shape.type.width_pos

end Shape

namespace VectorForm

structure Fits (form : VectorForm) : Prop where
  vector : form.shape.registers = .double ∨ form.shape.registers = .quad
  fills : form.shape.Fills
  integer : form.shape.reading ≠ .float → form.shape.type.isInteger = true
  destination : form.destination < 32
  sources : ∀ source ∈ form.sources, source < 32

def laneOffset (form : VectorForm) (register index : Nat) : Nat :=
  form.shape.registers.offset register + form.shape.type.width / 8 * index

def inputs (form : VectorForm) (registers : RegisterFile) (index : Nat) : List Datum :=
  form.constants.map (.scalar .i64) ++ form.sources.map fun source =>
    form.shape.reading.present form.shape.type
      (registers.number (form.laneOffset source index) form.shape.type.width)

def Spares (form : VectorForm) (offset : Nat) : Prop :=
  offset < form.shape.registers.offset form.destination ∨
    form.shape.registers.offset form.destination + form.shape.registers.bytes ≤ offset

variable {form : VectorForm}

def located (form : VectorForm) : Placement where
  destination := form.shape.registers.locate form.destination
  sources := form.sources.map form.shape.registers.locate

theorem Fits.placement? (fits : form.Fits) : form.placement? = some form.located := by
  rw [VectorForm.placement?, RegisterClass.location?_eq_locate fits.vector]
  simp only [Option.bind_eq_bind, Option.bind_some, located]
  rw [show (fun index => some (form.shape.registers.locate index)) =
    fun index => pure (form.shape.registers.locate index) from rfl, List.mapM_pure]
  rfl

theorem Fits.bytes_eq (fits : form.Fits) :
    form.shape.registers.bytes = form.shape.type.width / 8 * form.shape.lanes := by
  have fills : 8 * form.shape.registers.bytes = _ := fits.fills
  rcases form.shape.eight_dvd_width with ⟨scaled, isScaled⟩
  rw [isScaled, Nat.mul_assoc] at fills
  rw [isScaled, Nat.mul_div_cancel_left scaled (by omega)]
  omega

theorem Fits.laneOffset_eq (fits : form.Fits) (register index : Nat) :
    form.laneOffset register index =
      16 * (form.shape.registers.locate register).bank + form.shape.type.width / 8 *
        form.shape.lane index (form.shape.registers.locate register).position := by
  rw [laneOffset, RegisterClass.offset_eq_locate fits.vector, fits.bytes_eq, Shape.lane]
  ring

theorem Fits.number_eq_lane (fits : form.Fits) (registers : RegisterFile) {register index : Nat}
    (number : register < 32) (inside : index < form.shape.lanes) :
    registers.number (form.laneOffset register index) form.shape.type.width =
      (registers.image (form.shape.registers.locate register).bank).lane form.shape.type.width
        (form.shape.lane index (form.shape.registers.locate register).position) := by
  have bound := Shape.mul_lane_add_le fits.fills inside
    (RegisterClass.locate_inside fits.vector number).2
  rw [fits.laneOffset_eq, RegisterFile.number_eq_lane registers _ _ _ form.shape.eight_dvd_width
    bound]

theorem Fits.arguments_eq_inputs (fits : form.Fits) (registers : RegisterFile) {index : Nat}
    (inside : index < form.shape.lanes) :
    form.arguments form.located registers.image index = form.inputs registers index := by
  rw [arguments, inputs, located, List.map_map]
  congr 1
  apply List.map_congr_left
  intro source member
  rw [fits.number_eq_lane registers (fits.sources source member) inside]
  rfl

theorem Fits.destination_inside (fits : form.Fits) :
    form.located.destination.bank < bankCount ∧
      form.shape.registers.bytes * (form.located.destination.position + 1) ≤ 16 :=
  RegisterClass.locate_inside fits.vector fits.destination

def replace (form : VectorForm) (registers : RegisterFile) (bank : Fin bankCount)
    (value : Nat → BitVec form.shape.type.width) : RegisterFile :=
  registers.setBank bank ((registers.image bank).setLanes
    (form.located.destination.position * form.shape.lanes) form.shape.lanes value)

theorem Fits.number_replace (fits : form.Fits) (registers : RegisterFile) {bank : Fin bankCount}
    (isBank : form.located.destination.bank = bank)
    (value : Nat → BitVec form.shape.type.width) {index : Nat}
    (inside : index < form.shape.lanes) :
    (form.replace registers bank value).number (form.laneOffset form.destination index)
        form.shape.type.width = value index := by
  have bound := fits.destination_inside.2
  have scaled : form.shape.type.width *
      (form.located.destination.position * form.shape.lanes + form.shape.lanes) =
        8 * (form.shape.registers.bytes * (form.located.destination.position + 1)) := by
    rw [← Nat.mul_assoc, fits.fills]
    ring
  have sameBank : bank.val = (form.shape.registers.locate form.destination).bank := isBank.symm
  rw [fits.number_eq_lane _ fits.destination inside, replace, RegisterFile.image_setBank,
    if_pos sameBank]
  exact Image.lane_setLanes _ form.shape.type.width_pos _ _ value index inside (by omega)

theorem Fits.byte_replace (fits : form.Fits) (registers : RegisterFile) {bank : Fin bankCount}
    (isBank : form.located.destination.bank = bank)
    (value : Nat → BitVec form.shape.type.width) {offset : Nat} (spared : form.Spares offset) :
    (form.replace registers bank value).byte offset = registers.byte offset := by
  have sameBank : bank.val = (form.shape.registers.locate form.destination).bank := isBank.symm
  have start : form.shape.type.width / 8 *
      (form.located.destination.position * form.shape.lanes) =
        form.shape.type.width / 8 * form.shape.lanes *
          (form.shape.registers.locate form.destination).position := by
    rw [located]
    ring
  rw [Spares, RegisterClass.offset_eq_locate fits.vector, fits.bytes_eq] at spared
  apply RegisterFile.byte_setBank_setLanes registers bank form.shape.type.width_pos
    form.shape.eight_dvd_width
  rw [Nat.mul_add, start, sameBank]
  omega

/-- A vector instruction leaves in every lane of its destination what the body has
computed from that lane of its sources, and every byte outside of the destination
as it was. -/
theorem Fits.reaches_emission [FloatArithmetic] (fits : form.Fits) {registers : RegisterFile}
    {body : Nat → Body}
    {value : Nat → BitVec form.shape.type.width}
    (yields : ∀ index < form.shape.lanes,
      (body index).Yields (form.inputs registers index) (value index)) :
    ∃ values after,
      Code.Reaches ⟨[], registers⟩ (form.emission body).code ⟨values, after⟩ ∧
      (∀ index < form.shape.lanes,
        after.number (form.laneOffset form.destination index) form.shape.type.width =
          value index) ∧
      ∀ offset, form.Spares offset → after.byte offset = registers.byte offset := by
  have insideSources : ∀ source ∈ form.located.sources, source.bank < bankCount := by
    intro source member
    rcases List.mem_map.mp member with ⟨register, registerMember, rfl⟩
    exact (RegisterClass.locate_inside fits.vector (fits.sources register registerMember)).1
  have computes : ∀ index < form.shape.lanes,
      form.Computes form.located registers.image body value index := by
    intro index inside
    refine ⟨?_, Shape.lane_lt_lanesPerBank fits.fills inside fits.destination_inside.2, ?_⟩
    · intro source member
      rcases List.mem_map.mp member with ⟨register, registerMember, rfl⟩
      exact Shape.lane_lt_lanesPerBank fits.fills inside
        (RegisterClass.locate_inside fits.vector (fits.sources register registerMember)).2
    · rw [fits.arguments_eq_inputs registers inside]
      exact yields index inside
  let bank : Fin bankCount := ⟨form.located.destination.bank, fits.destination_inside.1⟩
  have isBank : form.located.destination.bank = bank := rfl
  rcases VectorForm.reaches_emission fits.placement? isBank insideSources fits.integer computes
    with ⟨values, run⟩
  exact ⟨values, form.replace registers bank value, run,
    fun index inside => fits.number_replace registers isBank _ inside,
    fun offset spared => fits.byte_replace registers isBank _ spared⟩

end VectorForm

/-! ## Templates -/

/-- Decoded operands in one of the forms that a vector instruction can take. A
ternary form reads its destination as well. -/
inductive VectorTemplate where
  | unary (operands : Guest.VectorPair)
  | binary (operands : Guest.VectorTriple)
  | ternary (operands : Guest.VectorTriple)
  deriving DecidableEq, Repr

namespace VectorTemplate

def form (reading : LaneReading) : VectorTemplate → VectorForm
  | .unary operands => operands.unaryForm reading
  | .binary operands => operands.binaryForm reading
  | .ternary operands => operands.ternaryForm reading

def destination : VectorTemplate → Nat
  | .unary operands => operands.destination
  | .binary operands | .ternary operands => operands.destination

def sources : VectorTemplate → List Nat
  | .unary operands => [operands.source]
  | .binary operands => [operands.left, operands.right]
  | .ternary operands => [operands.destination, operands.left, operands.right]

def size : VectorTemplate → Nat
  | .unary operands => operands.size
  | .binary operands | .ternary operands => operands.size

def registers : VectorTemplate → RegisterClass
  | .unary operands => operands.registers
  | .binary operands | .ternary operands => operands.registers

structure Decoded (template : VectorTemplate) : Prop where
  destination : template.destination < 32
  sources : ∀ source ∈ template.sources, source < 32
  size : template.size < 4
  vector : template.registers = .double ∨ template.registers = .quad

section Words

open Guest (Layout)

variable {word : Guest.Word}

theorem decoded_unary {operands : Guest.VectorPair}
    (decodes : Layout.vectorPair.decode word = .vectorPair operands) :
    (VectorTemplate.unary operands).Decoded := by
  simp only [Layout.decode, Guest.Operands.vectorPair.injEq] at decodes
  subst decodes
  exact {
    destination := word.doubleNumber_lt 12 22
    sources := by
      simp only [VectorTemplate.sources, List.forall_mem_singleton]
      exact word.doubleNumber_lt 0 5
    size := word.field_lt 18 2
    vector := word.vectorClass_cases }

theorem decoded_binary {operands : Guest.VectorTriple}
    (decodes : Layout.vectorTriple.decode word = .vectorTriple operands) :
    (VectorTemplate.binary operands).Decoded := by
  simp only [Layout.decode, Guest.Operands.vectorTriple.injEq] at decodes
  subst decodes
  exact {
    destination := word.doubleNumber_lt 12 22
    sources := by
      simp only [VectorTemplate.sources, List.forall_mem_cons, List.not_mem_nil, false_implies,
        implies_true, and_true]
      exact ⟨word.doubleNumber_lt 16 7, word.doubleNumber_lt 0 5⟩
    size := word.field_lt 20 2
    vector := word.vectorClass_cases }

theorem decoded_ternary {operands : Guest.VectorTriple}
    (decodes : Layout.vectorTriple.decode word = .vectorTriple operands) :
    (VectorTemplate.ternary operands).Decoded := by
  have binary := decoded_binary decodes
  exact {
    destination := binary.destination
    sources := List.forall_mem_cons.mpr ⟨binary.destination, binary.sources⟩
    size := binary.size
    vector := binary.vector }

end Words

/-- The type of a lane: a float of the precision that the low bit of the size
selects, or an integer of `2 ^ size` bytes. -/
def laneType (template : VectorTemplate) : LaneReading → ScalarType
  | .float => .floatOfSize template.size
  | .signed | .unsigned => .integerOfSize template.size

def lanes (template : VectorTemplate) (reading : LaneReading) : Nat :=
  8 * template.registers.bytes / (template.laneType reading).width

def lane (template : VectorTemplate) (reading : LaneReading) (file : RegisterFile)
    (register index : Nat) : BitVec (template.laneType reading).width :=
  file.number
    (template.registers.offset register + (template.laneType reading).width / 8 * index) _

def Spares (template : VectorTemplate) (offset : Nat) : Prop :=
  offset < template.registers.offset template.destination ∨
    template.registers.offset template.destination + template.registers.bytes ≤ offset

variable {template : VectorTemplate} {reading : LaneReading}

theorem shape_form (template : VectorTemplate) (reading : LaneReading) :
    (template.form reading).shape = .ofReading reading template.size template.registers := by
  cases template <;> rfl

theorem registers_shape (template : VectorTemplate) (reading : LaneReading) :
    (template.form reading).shape.registers = template.registers := by
  cases template <;> cases reading <;> rfl

theorem type_shape : (template.form reading).shape.type = template.laneType reading := by
  cases template <;> cases reading <;> rfl

theorem Decoded.fits (decoded : template.Decoded) (reading : LaneReading) :
    (template.form reading).Fits where
  vector := by
    rw [registers_shape template reading]
    exact decoded.vector
  fills := by
    rw [shape_form]
    exact Shape.fills_ofReading decoded.vector decoded.size
  integer := by
    rw [shape_form]
    exact Shape.isInteger_ofReading
  destination := by
    cases template <;> exact decoded.destination
  sources := by
    cases template <;> exact decoded.sources

theorem Decoded.lanes_shape (decoded : template.Decoded) (reading : LaneReading) :
    (template.form reading).shape.lanes = template.lanes reading := by
  have fills : 8 * _ = _ * _ := (decoded.fits reading).fills
  rw [lanes, ← type_shape, ← registers_shape template reading, fills,
    Nat.mul_div_cancel_left _ (ScalarType.width_pos _)]

theorem Decoded.result (decoded : template.Decoded) (body : Nat → Body) :
    ((template.form reading).emission body).result = .ok () := by
  rw [VectorForm.emission, (decoded.fits reading).placement?]

theorem Decoded.reaches_emission [FloatArithmetic] (decoded : template.Decoded)
    {registers : RegisterFile}
    {body : Nat → Body} {value : Nat → BitVec (template.laneType reading).width}
    (yields : ∀ index < template.lanes reading,
      (body index).Yields
        (template.sources.map fun source => reading.present (template.laneType reading)
          (template.lane reading registers source index)) (value index)) :
    ∃ values after,
      Code.Reaches ⟨[], registers⟩ ((template.form reading).emission body).code
        ⟨values, after⟩ ∧
      (∀ index < template.lanes reading,
        template.lane reading after template.destination index = value index) ∧
      ∀ offset, template.Spares offset → after.byte offset = registers.byte offset := by
  have lanes := decoded.lanes_shape reading
  rcases template with operands | operands | operands <;> cases reading
  all_goals
    rw [← lanes] at yields
    rcases (decoded.fits _).reaches_emission yields with ⟨values, after, run, written, spared⟩
    rw [lanes] at written
    exact ⟨values, after, run, written, spared⟩

/-- A template run on its own succeeds, computes every lane of its destination
from the same lanes of its sources as they were before, and changes no byte
outside of its destination. -/
theorem run_elementwise [FloatArithmetic] (template : VectorTemplate) (reading : LaneReading)
    (decoded : template.Decoded) (name : String) (registers : RegisterFile) (body : Nat → Body)
    (type : Nat → ScalarType) (pattern : (index : Nat) → BitVec (type index).width)
    (evaluates : ∀ index < template.lanes reading,
      (body index).evaluate? (template.sources.map fun source =>
          reading.present (template.laneType reading)
            (template.lane reading registers source index)) =
        some (.scalar (type index) (pattern index))) :
    ((template.form reading).emission body).result = .ok () ∧
    ∃ after,
      (Lane.CodeBuilder.append ({ name := name } : Lane.Function)
        ((template.form reading).emission body).code).run registers = ⟨after, .ok ()⟩ ∧
      (∀ index < template.lanes reading,
        template.lane reading after template.destination index =
          (pattern index).setWidth (template.laneType reading).width) ∧
      ∀ offset, template.Spares offset → after.byte offset = registers.byte offset := by
  have yields : ∀ index < template.lanes reading,
      (body index).Yields
        (template.sources.map fun source => reading.present (template.laneType reading)
          (template.lane reading registers source index))
        ((pattern index).setWidth (template.laneType reading).width) :=
    fun index inside => ⟨type index, pattern index, evaluates index inside, rfl⟩
  rcases decoded.reaches_emission yields with ⟨values, after, run, written, spared⟩
  exact ⟨decoded.result body, after, Lane.Function.run_append_empty run, written, spared⟩

/-- A multiply-accumulate of bytes whose destination and sources are the two
halves of one bank. -/
private def overlapping : VectorTemplate :=
  .ternary ⟨1, 0, 1, 0, false, false, .double⟩

private def counting : RegisterFile :=
  RegisterFile.zero.setBank 0 0x0f0e0d0c0b0a09080706050403020100

theorem run_elementwise_overlapping :
    overlapping.Decoded ∧
    ∃ after,
      (Lane.CodeBuilder.append ({ name := "vmla" } : Lane.Function)
        ((overlapping.form .unsigned).emission
          fun _ => .accumulate .imul .iadd).code).run counting = ⟨after, .ok ()⟩ ∧
      overlapping.lane .unsigned after 1 7 = 120 ∧ after.byte 7 = 7 := by
  have decoded : overlapping.Decoded := by constructor <;> decide
  have result := run_elementwise overlapping .unsigned decoded "vmla" counting
    (fun _ => .accumulate .imul .iadd) (fun _ => .i64)
    (fun index => BitVec.ofNat 64 ((8 + index) * (1 + index))) (by decide)
  rcases result with ⟨_, after, run, written, spared⟩
  exact ⟨decoded, after, run, written 7 (by decide), spared 7 (.inl (by decide))⟩

end VectorTemplate

end Lifting

end LaneLift
