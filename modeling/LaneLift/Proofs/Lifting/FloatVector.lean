import LaneLift.Proofs.Lifting.Float
import LaneLift.Proofs.Lifting.Integer

/-!
# Vector instructions on floats

The Advanced SIMD instructions on floats compute in every lane what VFP instructions
compute in a register. The low bit of the size code selects the precision of the lanes.
-/

namespace LaneLift

theorem Lane.Datum.ofPattern_injective {format : FloatFormat} {left right : BitVec format.width}
    (same : Datum.ofPattern format left = .ofPattern format right) : left = right := by
  cases format <;> cases same <;> rfl

namespace Guest.Word

/-- Does a word of a class compute floats in vectors? Two classes have both forms. -/
def computesFloats (word : Word) : Mnemonic → Bool
  | .vaddV | .vsubV | .vmulV | .vmlaV | .vmlsV => true
  | .vabsV | .vnegV => word.flag 10
  | _ => false

def lanePrecision (word : Word) (mnemonic : Mnemonic) : FloatFormat :=
  if word.elementSize mnemonic % 2 = 0 then .single else .double

def laneCount (word : Word) (mnemonic : Mnemonic) : Nat :=
  word.vectorClass.bytes / ((word.lanePrecision mnemonic).width / 8)

def laneSpan (word : Word) (mnemonic : Mnemonic) (low extension index : Nat) : Span where
  offset := word.vectorClass.offset (word.doubleNumber low extension) +
    (word.lanePrecision mnemonic).width / 8 * index
  bytes := (word.lanePrecision mnemonic).width / 8

def laneNumber (word : Word) (mnemonic : Mnemonic) (file : RegisterFile)
    (low extension index : Nat) : BitVec (word.lanePrecision mnemonic).width :=
  file.number (word.laneSpan mnemonic low extension index).offset _

theorem bytes_vectorClass (word : Word) (mnemonic : Mnemonic) :
    word.vectorClass.bytes =
      (word.lanePrecision mnemonic).width / 8 * word.laneCount mnemonic := by
  rw [laneCount]
  rcases word.vectorClass_cases with double | quad <;> cases word.lanePrecision mnemonic <;>
    simp [*, RegisterClass.bytes, FloatFormat.width]

end Guest.Word

namespace Lifting

open Guest (Arity Mnemonic VectorPair VectorTriple Word)
open Lane (Code Datum Opcode ScalarType)

/-! ## Templates -/

namespace VectorTemplate

variable {template : VectorTemplate} {format : FloatFormat}

/-- A lane reaches the arithmetic as the number at its place in the memory. -/
theorem present_lane (isType : template.laneType .float = format.scalarType)
    (file : RegisterFile) (register index : Nat) :
    LaneReading.float.present (template.laneType .float)
        (template.lane .float file register index) =
      .ofPattern format (file.number
        (template.registers.offset register + format.width / 8 * index) format.width) := by
  rw [lane, isType]
  cases format <;> rfl

theorem Decoded.reaches_numbers [FloatArithmetic] (decoded : template.Decoded)
    (isType : template.laneType .float = format.scalarType) {registers : RegisterFile}
    {body : Nat → Body} {value : Nat → BitVec format.width}
    (evaluates : ∀ index < template.lanes .float,
      (body index).evaluate? (template.sources.map fun source => .ofPattern format
        (registers.number (template.registers.offset source + format.width / 8 * index)
          format.width)) = some (.ofPattern format (value index))) :
    ∃ values after,
      Code.Reaches ⟨[], registers⟩ ((template.form .float).emission body).code
        ⟨values, after⟩ ∧
      (∀ index < template.lanes .float,
        after.number (template.registers.offset template.destination + format.width / 8 * index)
          format.width = value index) ∧
      RegisterFile.AgreeOutside (template.registers.span template.destination) after
        registers := by
  simp only [← present_lane isType] at evaluates
  have exists_pattern : ∀ index, ∃ pattern : BitVec (template.laneType .float).width,
      Datum.scalar (template.laneType .float) pattern = .ofPattern format (value index) := by
    intro index
    rw [isType]
    cases format <;> exact ⟨value index, rfl⟩
  choose pattern isPattern using exists_pattern
  have yields : ∀ index < template.lanes .float, (body index).Yields
      (template.sources.map fun source => LaneReading.float.present (template.laneType .float)
        (template.lane .float registers source index)) (pattern index) := by
    intro index inside
    have evaluated := evaluates index inside
    rw [← isPattern] at evaluated
    exact ⟨_, _, evaluated, BitVec.setWidth_eq _⟩
  rcases decoded.reaches_emission yields with ⟨values, after, run, written, spared⟩
  refine ⟨values, after, run, ?_,
    fun offset outside => spared offset (Span.not_covers_iff.mp outside)⟩
  intro index inside
  apply Datum.ofPattern_injective
  rw [← present_lane isType, written index inside, ← isPattern]
  rfl

end VectorTemplate

/-! ## Plans -/

structure PlansFloat [FloatArithmetic] (word : Word) (mnemonic : Mnemonic)
    (template : VectorTemplate)
    (body : Body) (arity : Arity) : Prop where
  planned : plan? mnemonic (mnemonic.layout.decode word) =
    some (.vector (template.form .float) body)
  decoded : template.Decoded
  destination : template.destination = word.doubleNumber 12 22
  sources : template.sources =
    arity.select (word.doubleNumber 12 22) (word.doubleNumber 16 7) (word.doubleNumber 0 5)
  size : template.size = word.elementSize mnemonic
  registers : template.registers = word.vectorClass
  makes : body.MakesFloat mnemonic arity

variable {word : Word} {mnemonic : Mnemonic}

theorem plansFloat_unary [FloatArithmetic] (opcode : Opcode)
    (layout : mnemonic.layout = .vectorPair)
    (sizeCode : word.elementSize mnemonic = word.field 18 2)
    (planned : ∀ operands : VectorPair, operands.float = word.flag 10 →
      pairPlan? mnemonic operands = some (.vector (operands.unaryForm .float) (.unary opcode)))
    (element : ∀ (format : FloatFormat) (d n m : BitVec format.width), ∃ value,
      mnemonic.float? format d n m = some value ∧
        Lane.floatUnary? format m opcode = some value) :
    ∃ template body arity, PlansFloat word mnemonic template body arity := by
  rcases Guest.decode_vectorPair word with
    ⟨operands, decodes, destination, source, size, float, registers⟩
  refine ⟨.unary operands, .unary opcode, .unary, ?_⟩
  exact {
    planned := by
      rw [layout, decodes]
      exact planned operands float
    decoded := VectorTemplate.decoded_unary decodes
    destination := destination
    sources := congrArg ([·]) source
    size := size.trans sizeCode.symm
    registers := registers
    makes := Body.makesFloat_unary opcode element }

theorem plansFloat_binary [FloatArithmetic] (opcode : Opcode)
    (layout : mnemonic.layout = .vectorTriple)
    (sizeCode : word.elementSize mnemonic = word.field 20 2)
    (planned : ∀ operands : VectorTriple, triplePlan? mnemonic operands =
      some (.vector (operands.binaryForm .float) (.binary opcode)))
    (element : ∀ (format : FloatFormat) (d n m : BitVec format.width), ∃ value,
      mnemonic.float? format d n m = some value ∧
        Lane.floatBinary? format n m opcode = some value) :
    ∃ template body arity, PlansFloat word mnemonic template body arity := by
  rcases Guest.decode_vectorTriple word with
    ⟨operands, decodes, destination, left, right, size, _, registers⟩
  refine ⟨.binary operands, .binary opcode, .binary, ?_⟩
  exact {
    planned := by
      rw [layout, decodes]
      exact planned operands
    decoded := VectorTemplate.decoded_binary decodes
    destination := destination
    sources := by
      rw [← left, ← right]
      rfl
    size := size.trans sizeCode.symm
    registers := registers
    makes := Body.makesFloat_binary opcode element }

theorem plansFloat_ternary [FloatArithmetic] (combine : Opcode)
    (layout : mnemonic.layout = .vectorTriple)
    (sizeCode : word.elementSize mnemonic = word.field 20 2)
    (planned : ∀ operands : VectorTriple, triplePlan? mnemonic operands =
      some (.vector (operands.ternaryForm .float) (.accumulate .fmul combine)))
    (element : ∀ (format : FloatFormat) (d n m : BitVec format.width), ∃ value,
      mnemonic.float? format d n m = some value ∧
        Lane.floatBinary? format d (format.multiply n m) combine = some value) :
    ∃ template body arity, PlansFloat word mnemonic template body arity := by
  rcases Guest.decode_vectorTriple word with
    ⟨operands, decodes, destination, left, right, size, _, registers⟩
  refine ⟨.ternary operands, .accumulate .fmul combine, .ternary, ?_⟩
  exact {
    planned := by
      rw [layout, decodes]
      exact planned operands
    decoded := VectorTemplate.decoded_ternary decodes
    destination := destination
    sources := by
      rw [← destination, ← left, ← right]
      rfl
    size := size.trans sizeCode.symm
    registers := registers
    makes := Body.makesFloat_accumulate combine element }

theorem exists_plansFloat [FloatArithmetic] (floats : word.computesFloats mnemonic = true) :
    ∃ template body arity, PlansFloat word mnemonic template body arity := by
  cases mnemonic with
  | vaddV | vsubV | vmulV =>
      exact plansFloat_binary _ rfl rfl (fun _ => rfl) fun format d n m => ⟨_, rfl, rfl⟩
  | vmlaV | vmlsV =>
      exact plansFloat_ternary _ rfl rfl (fun _ => rfl) fun format d n m => ⟨_, rfl, rfl⟩
  | vabsV =>
      have isFloats : word.flag 10 = true := floats
      apply plansFloat_unary .fabs rfl rfl
      · intro operands isFloat
        rw [pairPlan?, isFloat, if_pos isFloats]
      · intro format d n m
        exact ⟨_, rfl, congrArg some (format.absolute_eq_withSign m)⟩
  | vnegV =>
      have isFloats : word.flag 10 = true := floats
      apply plansFloat_unary .fneg rfl rfl
      · intro operands isFloat
        rw [pairPlan?, isFloat, if_pos isFloats]
      · intro format d n m
        exact ⟨_, rfl, congrArg some (format.negate_eq_withSign m)⟩
  | _ => cases floats

theorem floatOfSize_elementSize :
    ScalarType.floatOfSize (word.elementSize mnemonic) =
      (word.lanePrecision mnemonic).scalarType := by
  rw [ScalarType.floatOfSize, Word.lanePrecision]
  split <;> rfl

theorem PlansFloat.reaches [FloatArithmetic] {template : VectorTemplate} {body : Body}
    {arity : Arity}
    (plans : PlansFloat word mnemonic template body arity) (registers : RegisterFile) :
    ∃ values after,
      Code.Reaches ⟨[], registers⟩ ((template.form .float).emission fun _ => body).code
        ⟨values, after⟩ ∧
      (∀ index < word.laneCount mnemonic,
        mnemonic.float? _ (word.laneNumber mnemonic registers 12 22 index)
          (word.laneNumber mnemonic registers 16 7 index)
          (word.laneNumber mnemonic registers 0 5 index) =
            some (word.laneNumber mnemonic after 12 22 index)) ∧
      RegisterFile.AgreeOutside (word.vectorClass.span (word.doubleNumber 12 22)) after
        registers := by
  have isType : template.laneType .float = (word.lanePrecision mnemonic).scalarType := by
    rw [VectorTemplate.laneType, plans.size, floatOfSize_elementSize]
  have lanes : template.lanes .float = word.laneCount mnemonic := by
    rw [VectorTemplate.lanes, isType, plans.registers, Word.laneCount]
    rcases word.vectorClass_cases with double | quad <;> cases word.lanePrecision mnemonic <;>
      simp [*] <;> rfl
  choose value isValue evaluates using fun index => plans.makes (word.lanePrecision mnemonic)
    (word.laneNumber mnemonic registers 12 22 index)
    (word.laneNumber mnemonic registers 16 7 index)
    (word.laneNumber mnemonic registers 0 5 index)
  have evaluatesLane : ∀ index < template.lanes .float,
      body.evaluate? (template.sources.map fun source =>
        .ofPattern (word.lanePrecision mnemonic) (registers.number
          (template.registers.offset source + (word.lanePrecision mnemonic).width / 8 * index)
          _)) = some (.ofPattern _ (value index)) := by
    intro index _
    have evaluated := evaluates index
    rw [Arity.map_select] at evaluated
    rw [plans.sources, Arity.map_select, plans.registers]
    exact evaluated
  rcases plans.decoded.reaches_numbers isType evaluatesLane with
    ⟨values, after, run, written, spared⟩
  rw [plans.registers, plans.destination] at written spared
  refine ⟨values, after, run, ?_, spared⟩
  intro index inside
  rw [lanes] at written
  rw [isValue, ← written index inside]
  rfl

end Lifting

open Guest (Address Row Word)

section Words

variable {settings : Settings} {word : Word} {row : Row}

theorem reaches_liftWord_floats [FloatArithmetic] (found : Guest.lookup? word = some row)
    (allowed : settings.allows row.descriptor.mnemonic = true)
    (floats : word.computesFloats row.descriptor.mnemonic = true) (address : Address)
    (registers : RegisterFile) :
    (liftWord settings address word).result = .ok () ∧
    ∃ values after,
      Lane.Code.Reaches ⟨[], registers⟩ (liftWord settings address word).code ⟨values, after⟩ ∧
      (∀ index < word.laneCount row.descriptor.mnemonic,
        row.descriptor.mnemonic.float? _
          (word.laneNumber row.descriptor.mnemonic registers 12 22 index)
          (word.laneNumber row.descriptor.mnemonic registers 16 7 index)
          (word.laneNumber row.descriptor.mnemonic registers 0 5 index) =
            some (word.laneNumber row.descriptor.mnemonic after 12 22 index)) ∧
      RegisterFile.AgreeOutside (word.vectorClass.span (word.doubleNumber 12 22)) after
        registers := by
  rcases Lifting.exists_plansFloat floats with ⟨template, body, arity, plans⟩
  have planned := plans.planned
  rw [← Guest.layout_of_lookup? found] at planned
  rcases liftWord_of_plan found allowed planned with ⟨code, result⟩
  rw [code, result]
  exact ⟨plans.decoded.result _, plans.reaches registers⟩

end Words

/-- A word that computes floats in vectors is lifted, and running it on its own leaves in every
lane of its destination the number that it makes of the numbers in the same lanes as they were
before, and changes no byte outside of the destination. -/
theorem run_liftWord_floats [FloatArithmetic] (word : Word) (row : Row)
    (found : Guest.lookup? word = some row)
    (floats : word.computesFloats row.descriptor.mnemonic = true) (address : Address)
    (name : String) (registers : RegisterFile) :
    (liftWord {} address word).result = .ok () ∧
    ∃ after,
      (Lane.CodeBuilder.append ({ name := name } : Lane.Function)
        (liftWord {} address word).code).run registers = ⟨after, .ok ()⟩ ∧
      (∀ index < word.laneCount row.descriptor.mnemonic,
        row.descriptor.mnemonic.float? _
          (word.laneNumber row.descriptor.mnemonic registers 12 22 index)
          (word.laneNumber row.descriptor.mnemonic registers 16 7 index)
          (word.laneNumber row.descriptor.mnemonic registers 0 5 index) =
            some (word.laneNumber row.descriptor.mnemonic after 12 22 index)) ∧
      ∀ offset, ¬(word.vectorClass.span (word.doubleNumber 12 22)).Covers offset →
        after.byte offset = registers.byte offset := by
  rcases reaches_liftWord_floats found (Settings.allows_default _) floats address registers with
    ⟨result, values, after, run, made, spared⟩
  exact ⟨result, after, Lane.Function.run_append_empty run, made, spared⟩

/-- `d1` holds 0.25 and 1, `d0` 1.5 and a signalling NaN, `d2` 2 and 1. -/
private def signallingFactor : RegisterFile :=
  (RegisterFile.zero.setBank 0 0x3f8000003e8000007fa000013fc00000).setBank 1 0x3f80000040000000

/-- `vmla.f32 d1, d0, d2` makes a number in one lane and a quiet NaN in the other. -/
theorem run_liftWord_floats_accumulating :
    (Guest.lookup? 0xf2001d12).map (·.descriptor.mnemonic) = some .vmlaV ∧
    Word.computesFloats 0xf2001d12 .vmlaV = true ∧
    ∃ after,
      (Lane.CodeBuilder.append ({ name := "vmla" } : Lane.Function)
        (liftWord {} 0x1000 0xf2001d12).code).run signallingFactor = ⟨after, .ok ()⟩ ∧
      after.number 8 32 = 0x40500000 ∧ after.number 12 32 = 0x7fe00001 ∧
      after.byte 7 = 0x7f := by
  have found : Guest.lookup? 0xf2001d12 = some
      ⟨0xffa00f10, 0xf2000d10, .vmlaV, .vectorTriple⟩ := by rfl
  rcases run_liftWord_floats 0xf2001d12 _ found rfl 0x1000 "vmla" signallingFactor with
    ⟨_, after, run, made, spared⟩
  have first : some (FloatFormat.single.add (signallingFactor.number 8 32)
      (FloatFormat.single.multiply (signallingFactor.number 0 32)
        (signallingFactor.number 16 32))) = some (after.number 8 32) := made 0 (by decide)
  have second : some (FloatFormat.single.add (signallingFactor.number 12 32)
      (FloatFormat.single.multiply (signallingFactor.number 4 32)
        (signallingFactor.number 20 32))) = some (after.number 12 32) := made 1 (by decide)
  refine ⟨by rw [found]; rfl, rfl, after, run, ?_, ?_, spared 7 (by decide)⟩
  · rw [← Option.some.inj first]
    decide +kernel
  · rw [← Option.some.inj second]
    decide +kernel

end LaneLift
