import LaneLift.Proofs.Guest.Table
import LaneLift.Proofs.Lifting.Scalar
import LaneLift.Proofs.Lifting.Word

/-!
# VFP instructions

From the word to the registers: a VFP instruction computes one number in the
precision that bit 8 of its word selects, and writes it to the register that its
word names in this precision. Three places decide the precision, the numbering of
the registers, the type of the lanes and the type of the result; they agree
because every VFP row of the table fixes bit 9.
-/

namespace LaneLift

namespace Guest

/-- The number that an instruction makes of a number in its destination and the
numbers in its sources; on one source, the last one counts. Each operation rounds
on its own. -/
def Mnemonic.float? [FloatArithmetic] (format : FloatFormat) (d n m : BitVec format.width) :
    Mnemonic → Option (BitVec format.width)
  | .vaddS | .vaddV => some (format.add n m)
  | .vsubS | .vsubV => some (format.subtract n m)
  | .vmulS | .vmulV => some (format.multiply n m)
  | .vdivS => some (format.divide n m)
  | .vmlaS | .vmlaV => some (format.add d (format.multiply n m))
  | .vmlsS | .vmlsV => some (format.subtract d (format.multiply n m))
  | .vsqrtS => some (format.squareRoot m)
  | .vabsS | .vabsV => some (format.withSign false m)
  | .vnegS | .vnegV => some (format.withSign (!m.msb) m)
  | _ => none

inductive Arity where
  | unary
  | binary
  | ternary
  deriving DecidableEq, Repr

namespace Arity

def select {α : Type} (d n m : α) : Arity → List α
  | .unary => [m]
  | .binary => [n, m]
  | .ternary => [d, n, m]

theorem map_select {α β : Type} (transform : α → β) (d n m : α) (arity : Arity) :
    (arity.select d n m).map transform =
      arity.select (transform d) (transform n) (transform m) := by
  cases arity <;> rfl

theorem forall_mem_select {α : Type} {property : α → Prop} {d n m : α} (first : property d)
    (second : property n) (third : property m) (arity : Arity) :
    ∀ chosen ∈ arity.select d n m, property chosen := by
  cases arity <;> simp [select, first, second, third]

end Arity

namespace Word

def precision (word : Word) : FloatFormat :=
  if word.flag 8 then .double else .single

/-- The bytes of the VFP register that a word names by four bits at `low` and a bit at
`extension`, which is the lowest bit of an `S` number and the highest of a `D` number. -/
def scalarSpan (word : Word) (low extension : Nat) : Span where
  offset :=
    if word.flag 8 then 8 * (16 * (word.flag extension).toNat + word.field low 4)
    else 4 * (2 * word.field low 4 + (word.flag extension).toNat)
  bytes := if word.flag 8 then 8 else 4

def scalar (word : Word) (file : RegisterFile) (low extension : Nat) :
    BitVec word.precision.width :=
  file.number (word.scalarSpan low extension).offset word.precision.width

theorem field_two (word : Word) (offset : Nat) :
    word.field offset 2 = (word.flag offset).toNat + 2 * (word.flag (offset + 1)).toNat := by
  have bits : ∀ x : BitVec 2, x.toNat = (x.getLsbD 0).toNat + 2 * (x.getLsbD 1).toNat := by
    decide
  rw [field, bits, BitVec.getLsbD_extractLsb', BitVec.getLsbD_extractLsb']
  rfl

theorem field_one (word : Word) (offset : Nat) :
    word.field offset 1 = (word.flag offset).toNat := by
  have bits : ∀ x : BitVec 1, x.toNat = (x.getLsbD 0).toNat := by decide
  rw [field, bits, BitVec.getLsbD_extractLsb']
  rfl

variable {word : Word}

theorem floatOfSize_field (offset : Nat) :
    Lane.ScalarType.floatOfSize (word.field offset 2) =
      if word.flag offset then .f64 else .f32 := by
  rw [field_two, Lane.ScalarType.floatOfSize]
  cases word.flag offset <;> simp

theorem floatOfSize_eq_precision :
    Lane.ScalarType.floatOfSize (word.field 8 2) = word.precision.scalarType := by
  rw [floatOfSize_field, precision]
  cases word.flag 8 <;> rfl

theorem doubleNumber_eq (low extension : Nat) : word.doubleNumber low extension =
    16 * (word.flag extension).toNat + word.field low 4 := by
  rw [doubleNumber, BitVec.toNat_append, ← field, ← field, field_one,
    ← Nat.shiftLeft_add_eq_or_of_lt (word.field_lt low 4), Nat.shiftLeft_eq, Nat.mul_comm]

theorem singleNumber_eq (low extension : Nat) : word.singleNumber low extension =
    2 * word.field low 4 + (word.flag extension).toNat := by
  rw [singleNumber, BitVec.toNat_append, ← field, ← field,
    ← Nat.shiftLeft_add_eq_or_of_lt (word.field_lt extension 1), field_one, Nat.shiftLeft_eq,
    Nat.mul_comm]

theorem span_scalarNumber (upper : word.flag 9 = true) (low extension : Nat) :
    word.precision.registers.span (word.scalarNumber low extension) =
      word.scalarSpan low extension := by
  rw [scalarNumber, field_two, upper, doubleNumber_eq, singleNumber_eq, scalarSpan, precision]
  cases word.flag 8 <;> rfl

end Word

theorem flag_of_mem_table : ∀ row ∈ table, row.descriptor.mnemonic.isScalar = true →
    row.mask.getLsbD 9 = true ∧ row.value.getLsbD 9 = true := by
  decide

theorem Word.flag_of_lookup? {word : Word} {row : Row} (found : lookup? word = some row)
    (scalar : row.descriptor.mnemonic.isScalar = true) : word.flag 9 = true := by
  rcases mem_table_of_lookup? found with ⟨member, isMatch⟩
  rcases flag_of_mem_table row member scalar with ⟨fixed, value⟩
  rw [Word.flag, Row.getLsbD_of_matches isMatch fixed, value]

end Guest

namespace Lifting

open Guest (Arity Mnemonic Row ScalarPair ScalarTriple Word)
open Lane (Datum Opcode ScalarType floatBinary? floatUnary?)

/-! ## Bodies -/

namespace Body

variable [FloatArithmetic]

def MakesFloat (body : Body) (mnemonic : Mnemonic) (arity : Arity) : Prop :=
  ∀ (format : FloatFormat) (d n m : BitVec format.width), ∃ value,
    mnemonic.float? format d n m = some value ∧
    body.evaluate? ((arity.select d n m).map (Datum.ofPattern format)) =
      some (.ofPattern format value)

variable {mnemonic : Mnemonic}

theorem makesFloat_unary (opcode : Opcode)
    (element : ∀ (format : FloatFormat) (d n m : BitVec format.width), ∃ value,
      mnemonic.float? format d n m = some value ∧ floatUnary? format m opcode = some value) :
    (unary opcode).MakesFloat mnemonic .unary := by
  intro format d n m
  rcases element format d n m with ⟨value, isValue, computed⟩
  refine ⟨value, isValue, ?_⟩
  rw [Arity.select, List.map_singleton, evaluate?_unary, Datum.unary?_ofPattern, computed,
    Option.map_some]

theorem makesFloat_binary (opcode : Opcode)
    (element : ∀ (format : FloatFormat) (d n m : BitVec format.width), ∃ value,
      mnemonic.float? format d n m = some value ∧ floatBinary? format n m opcode = some value) :
    (binary opcode).MakesFloat mnemonic .binary := by
  intro format d n m
  rcases element format d n m with ⟨value, isValue, computed⟩
  refine ⟨value, isValue, ?_⟩
  rw [Arity.select, List.map_cons, List.map_singleton, evaluate?_binary,
    Datum.binary?_ofPattern, computed, Option.map_some]

theorem makesFloat_accumulate (combine : Opcode)
    (element : ∀ (format : FloatFormat) (d n m : BitVec format.width), ∃ value,
      mnemonic.float? format d n m = some value ∧
        floatBinary? format d (format.multiply n m) combine = some value) :
    (accumulate .fmul combine).MakesFloat mnemonic .ternary := by
  intro format d n m
  rcases element format d n m with ⟨value, isValue, computed⟩
  refine ⟨value, isValue, ?_⟩
  rw [Arity.select, List.map_cons, List.map_cons, List.map_singleton, evaluate?_accumulate,
    Datum.binary?_ofPattern, floatBinary?, Option.map_some, Option.bind_some,
    Datum.binary?_ofPattern, computed, Option.map_some]

end Body

/-! ## Plans -/

variable [FloatArithmetic]

structure PlansScalar (word : Word) (mnemonic : Mnemonic) (form : ScalarForm) (body : Body)
    (arity : Arity) : Prop where
  planned : plan? mnemonic (mnemonic.layout.decode word) = some (.scalar form body)
  type : form.type = .floatOfSize (word.field 8 2)
  keeps : form.resultType = .scalar form.type
  destination : form.destination = word.scalarNumber 12 22
  sources : form.sources =
    arity.select (word.scalarNumber 12 22) (word.scalarNumber 16 7) (word.scalarNumber 0 5)
  makes : body.MakesFloat mnemonic arity

variable {word : Word} {mnemonic : Mnemonic}

theorem plansScalar_unary (opcode : Opcode) (layout : mnemonic.layout = .scalarPair)
    (planned : ∀ operands : ScalarPair, scalarPairPlan? mnemonic operands =
      some (.scalar operands.unaryForm (.unary opcode)))
    (element : ∀ (format : FloatFormat) (d n m : BitVec format.width), ∃ value,
      mnemonic.float? format d n m = some value ∧ floatUnary? format m opcode = some value) :
    ∃ form body arity, PlansScalar word mnemonic form body arity := by
  rcases Guest.decode_scalarPair word with ⟨operands, decodes, destination, source, size⟩
  refine ⟨operands.unaryForm, .unary opcode, .unary, ?_⟩
  exact {
    planned := by
      rw [layout, decodes]
      exact planned operands
    type := congrArg ScalarType.floatOfSize size
    keeps := rfl
    destination := destination
    sources := congrArg ([·]) source
    makes := Body.makesFloat_unary opcode element }

theorem plansScalar_binary (opcode : Opcode) (layout : mnemonic.layout = .scalarTriple)
    (planned : ∀ operands : ScalarTriple, scalarTriplePlan? mnemonic operands =
      some (.scalar operands.binaryForm (.binary opcode)))
    (element : ∀ (format : FloatFormat) (d n m : BitVec format.width), ∃ value,
      mnemonic.float? format d n m = some value ∧ floatBinary? format n m opcode = some value) :
    ∃ form body arity, PlansScalar word mnemonic form body arity := by
  rcases Guest.decode_scalarTriple word with
    ⟨operands, decodes, destination, left, right, size⟩
  refine ⟨operands.binaryForm, .binary opcode, .binary, ?_⟩
  exact {
    planned := by
      rw [layout, decodes]
      exact planned operands
    type := congrArg ScalarType.floatOfSize size
    keeps := rfl
    destination := destination
    sources := by
      rw [← left, ← right]
      rfl
    makes := Body.makesFloat_binary opcode element }

theorem plansScalar_ternary (combine : Opcode) (layout : mnemonic.layout = .scalarTriple)
    (planned : ∀ operands : ScalarTriple, scalarTriplePlan? mnemonic operands =
      some (.scalar operands.ternaryForm (.accumulate .fmul combine)))
    (element : ∀ (format : FloatFormat) (d n m : BitVec format.width), ∃ value,
      mnemonic.float? format d n m = some value ∧
        floatBinary? format d (format.multiply n m) combine = some value) :
    ∃ form body arity, PlansScalar word mnemonic form body arity := by
  rcases Guest.decode_scalarTriple word with
    ⟨operands, decodes, destination, left, right, size⟩
  refine ⟨operands.ternaryForm, .accumulate .fmul combine, .ternary, ?_⟩
  exact {
    planned := by
      rw [layout, decodes]
      exact planned operands
    type := congrArg ScalarType.floatOfSize size
    keeps := rfl
    destination := destination
    sources := by
      rw [← destination, ← left, ← right]
      rfl
    makes := Body.makesFloat_accumulate combine element }

theorem exists_plansScalar (word : Word) (scalar : mnemonic.isScalar = true) :
    ∃ form body arity, PlansScalar word mnemonic form body arity := by
  cases mnemonic with
  | vaddS | vsubS | vmulS | vdivS =>
      exact plansScalar_binary _ rfl (fun _ => rfl) fun format d n m => ⟨_, rfl, rfl⟩
  | vmlaS | vmlsS =>
      exact plansScalar_ternary _ rfl (fun _ => rfl) fun format d n m => ⟨_, rfl, rfl⟩
  | vabsS =>
      exact plansScalar_unary .fabs rfl (fun _ => rfl) fun format d n m =>
        ⟨_, rfl, congrArg some (format.absolute_eq_withSign m)⟩
  | vnegS =>
      exact plansScalar_unary .fneg rfl (fun _ => rfl) fun format d n m =>
        ⟨_, rfl, congrArg some (format.negate_eq_withSign m)⟩
  | vsqrtS =>
      exact plansScalar_unary .sqrt rfl (fun _ => rfl) fun format d n m => ⟨_, rfl, rfl⟩
  | _ => cases scalar

/-! ## Words -/

theorem PlansScalar.reaches {word : Word} {mnemonic : Mnemonic} {form : ScalarForm} {body : Body}
    {arity : Arity} (plans : PlansScalar word mnemonic form body arity)
    (upper : word.flag 9 = true) (registers : RegisterFile) :
    ∃ values after,
      Lane.Code.Reaches ⟨[], registers⟩ (form.emission body).code ⟨values, after⟩ ∧
      mnemonic.float? word.precision (word.scalar registers 12 22)
          (word.scalar registers 16 7) (word.scalar registers 0 5) =
        some (word.scalar after 12 22) ∧
      RegisterFile.AgreeOutside (word.scalarSpan 12 22) after registers := by
  have type : form.type = word.precision.scalarType := by
    rw [plans.type, Word.floatOfSize_eq_precision]
  have destination : form.destination < 32 := plans.destination ▸ word.scalarNumber_lt 12 22
  have sources : ∀ source ∈ form.sources, source < 32 := by
    rw [plans.sources]
    apply Arity.forall_mem_select <;> exact word.scalarNumber_lt _ _
  have place : ∀ low extension,
      word.precision.registers.offset (word.scalarNumber low extension) =
        (word.scalarSpan low extension).offset :=
    fun low extension => congrArg Span.offset (Word.span_scalarNumber upper low extension)
  rcases plans.makes word.precision (word.scalar registers 12 22) (word.scalar registers 16 7)
    (word.scalar registers 0 5) with ⟨value, isValue, evaluates⟩
  have yields : body.Yields (form.sources.map fun source =>
      .ofPattern word.precision (registers.number (word.precision.registers.offset source)
        word.precision.width)) value := by
    rw [Arity.map_select] at evaluates
    rw [plans.sources, Arity.map_select, place, place, place]
    exact Body.yields_ofPattern evaluates
  rcases ScalarForm.reaches_number type plans.keeps destination sources yields with
    ⟨values, after, run, written, spared⟩
  rw [plans.destination, place] at written
  rw [plans.destination, Word.span_scalarNumber upper] at spared
  refine ⟨values, after, run, ?_, spared⟩
  rw [isValue, Word.scalar, written]

end Lifting

open Guest (Address Row Word)

section Words

variable {settings : Settings} {word : Word} {row : Row}

theorem reaches_liftWord_scalar [FloatArithmetic] (found : Guest.lookup? word = some row)
    (allowed : settings.allows row.descriptor.mnemonic = true)
    (scalar : row.descriptor.mnemonic.isScalar = true) (address : Address)
    (registers : RegisterFile) :
    (liftWord settings address word).result = .ok () ∧
    ∃ values after,
      Lane.Code.Reaches ⟨[], registers⟩ (liftWord settings address word).code ⟨values, after⟩ ∧
      row.descriptor.mnemonic.float? word.precision (word.scalar registers 12 22)
          (word.scalar registers 16 7) (word.scalar registers 0 5) =
        some (word.scalar after 12 22) ∧
      RegisterFile.AgreeOutside (word.scalarSpan 12 22) after registers := by
  rcases Lifting.exists_plansScalar word scalar with ⟨form, body, arity, plans⟩
  have planned := plans.planned
  rw [← Guest.layout_of_lookup? found] at planned
  rcases liftWord_of_plan found allowed planned with ⟨code, result⟩
  rw [code, result]
  exact ⟨rfl, plans.reaches (Word.flag_of_lookup? found scalar) registers⟩

end Words

/-- A VFP instruction is lifted, and running it on its own writes to its destination the number
that it makes of the numbers that were in its registers before, and changes no
byte outside of the destination. -/
theorem run_liftWord_scalar [FloatArithmetic] (word : Word) (row : Row)
    (found : Guest.lookup? word = some row)
    (scalar : row.descriptor.mnemonic.isScalar = true) (address : Address) (name : String)
    (registers : RegisterFile) :
    (liftWord {} address word).result = .ok () ∧
    ∃ after,
      (Lane.CodeBuilder.append ({ name := name } : Lane.Function)
        (liftWord {} address word).code).run registers = ⟨after, .ok ()⟩ ∧
      row.descriptor.mnemonic.float? word.precision (word.scalar registers 12 22)
          (word.scalar registers 16 7) (word.scalar registers 0 5) =
        some (word.scalar after 12 22) ∧
      ∀ offset, ¬(word.scalarSpan 12 22).Covers offset →
        after.byte offset = registers.byte offset := by
  rcases reaches_liftWord_scalar found (Settings.allows_default _) scalar address registers with
    ⟨result, values, after, run, written, spared⟩
  exact ⟨result, after, Lane.Function.run_append_empty run, written, spared⟩

/-- The numbers 0.25, 1.5 and 2 in the registers from `s1` on. -/
private def quarterAndFactors : RegisterFile :=
  RegisterFile.zero.setBank 0 0x400000003fc000003e80000000000000

/-- `vmla.f32 s1, s2, s3` adds 1.5 times 2 to 0.25. -/
theorem run_liftWord_scalar_accumulating :
    (Guest.lookup? 0xee410a21).map (·.descriptor.mnemonic) = some .vmlaS ∧
    ∃ after,
      (Lane.CodeBuilder.append ({ name := "vmla" } : Lane.Function)
        (liftWord {} 0x1000 0xee410a21).code).run quarterAndFactors = ⟨after, .ok ()⟩ ∧
      after.number 4 32 = 0x40500000 ∧ after.byte 15 = 0x40 := by
  have found : Guest.lookup? 0xee410a21 = some
      ⟨0xffb00e50, 0xee000a00, .vmlaS, .scalarTriple⟩ := by rfl
  rcases run_liftWord_scalar 0xee410a21 _ found rfl 0x1000 "vmla" quarterAndFactors with
    ⟨_, after, run, written, spared⟩
  have isWritten : some (FloatFormat.single.add (quarterAndFactors.number 4 32)
      (FloatFormat.single.multiply (quarterAndFactors.number 8 32)
        (quarterAndFactors.number 12 32))) = some (after.number 4 32) := written
  refine ⟨by rw [found]; rfl, after, run, ?_, spared 15 (by decide)⟩
  rw [← Option.some.inj isWritten]
  decide +kernel

end LaneLift
