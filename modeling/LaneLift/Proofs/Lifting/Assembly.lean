import LaneLift.Proofs.Guest.Encoding
import LaneLift.Proofs.Lifting.Float

/-!
# Words that name given registers

For every VFP row, both precisions and any registers there is a word that the row is found
for and that names these registers: the value of the row with operands filled in.
-/

namespace LaneLift

def FloatFormat.sizeCode : FloatFormat → Nat
  | .single => 2
  | .double => 3

namespace Guest

/-- Where a word names a register: four bits from `low` on and a bit at `extension`. -/
structure RegisterField where
  low : Nat
  extension : Nat
  deriving DecidableEq, Repr

namespace Mnemonic

def registerFields (mnemonic : Mnemonic) : List RegisterField :=
  match mnemonic.layout with
  | .bitfield => []
  | .vectorImmediate => [⟨12, 22⟩]
  | .vectorPair | .scalarPair => [⟨12, 22⟩, ⟨0, 5⟩]
  | .vectorTriple | .scalarTriple => [⟨12, 22⟩, ⟨16, 7⟩, ⟨0, 5⟩]

theorem layout_of_isScalar {mnemonic : Mnemonic} (scalar : mnemonic.isScalar = true) :
    mnemonic.layout = .scalarPair ∨ mnemonic.layout = .scalarTriple := by
  cases mnemonic <;> first | decide | cases scalar

end Mnemonic

variable {row : Row} {format : FloatFormat}

/-! ## What VFP rows leave free -/

theorem Filling.agrees_of_free {filling : Filling} (own : row.matches row.value = true)
    (free : row.mask.extractLsb' filling.field.offset filling.field.width = 0) :
    filling.Agrees row := by
  have isValue : row.value &&& row.mask = row.value := by simpa [Row.matches] using own
  have fixesNothing : row.value.extractLsb' filling.field.offset filling.field.width = 0 := by
    rw [← isValue, BitVec.extractLsb'_and, free]
    exact BitVec.and_zero
  rw [Agrees, free, fixesNothing]
  exact BitVec.and_zero

namespace Row

def Frees (row : Row) (field : RegisterField) : Prop :=
  row.mask.extractLsb' field.low 4 = 0 ∧ row.mask.extractLsb' field.extension 1 = 0

instance (row : Row) (field : RegisterField) : Decidable (row.Frees field) :=
  inferInstanceAs (Decidable (_ ∧ _))

theorem Frees.agrees_scalar {field : RegisterField} (free : row.Frees field)
    (own : row.matches row.value = true) (size register : Nat) :
    ∀ filling ∈ Filling.scalar size field.low field.extension register, filling.Agrees row := by
  rw [Filling.scalar]
  split <;>
    exact List.forall_mem_cons.mpr ⟨Filling.agrees_of_free own free.1,
      List.forall_mem_singleton.mpr (Filling.agrees_of_free own free.2)⟩

end Row

/-- A VFP row leaves its registers and the lower bit of the size code free. -/
theorem free_of_mem_table : ∀ row ∈ table, row.descriptor.mnemonic.isScalar = true →
    row.mask.extractLsb' 8 2 = 2 ∧ row.value.extractLsb' 8 2 = 2 ∧
      ∀ field ∈ row.descriptor.mnemonic.registerFields, row.Frees field := by
  decide

theorem agrees_sizeCode (member : row ∈ table)
    (scalar : row.descriptor.mnemonic.isScalar = true) (format : FloatFormat) :
    (Filling.number 8 2 format.sizeCode).Agrees row := by
  rcases free_of_mem_table row member scalar with ⟨mask, value, _⟩
  rw [Filling.Agrees]
  simp only [Filling.number]
  rw [mask, value]
  cases format <;> decide

/-! ## Filling in registers -/

theorem exists_word_of_operands (member : row ∈ table)
    (scalar : row.descriptor.mnemonic.isScalar = true) (operands : Operands)
    (layout : operands.layout = row.descriptor.mnemonic.layout) (encodable : operands.Encodable)
    (agree : ∀ filling ∈ operands.fillings, filling.Agrees row) :
    ∃ word, lookup? word = some row ∧ operands.layout.decode word = operands := by
  have different : row ≠ .inserting := by
    rintro rfl
    cases scalar
  have found := lookup?_fill member (layout.trans (layout_of_mem_table row member).symm)
    encodable agree
  rw [Row.foundWith_of_ne different] at found
  exact ⟨_, found, decode_fill encodable row.value⟩

namespace Word

variable {word : Word}

theorem flags_of_size (size : word.field 8 2 = format.sizeCode) :
    word.flag 9 = true ∧ word.precision = format := by
  rw [field_two] at size
  rw [precision]
  cases lower : word.flag 8 <;> cases upper : word.flag 9 <;> cases format <;>
    simp [lower, upper, FloatFormat.sizeCode] at size ⊢

theorem scalarSpan_of_size (size : word.field 8 2 = format.sizeCode) (low extension : Nat) :
    word.scalarSpan low extension =
      format.registers.span (word.scalarNumber low extension) := by
  rcases flags_of_size size with ⟨upper, precision⟩
  rw [← span_scalarNumber upper, precision]

end Word

/-- A VFP row is found for a word of either precision that names any registers. -/
theorem exists_scalarWord {row : Row} (member : row ∈ table)
    (scalar : row.descriptor.mnemonic.isScalar = true) (format : FloatFormat)
    (number : RegisterField → BitVec 5) :
    ∃ word, lookup? word = some row ∧ word.precision = format ∧
      ∀ field ∈ row.descriptor.mnemonic.registerFields,
        word.scalarSpan field.low field.extension =
          format.registers.span (number field).toNat := by
  have own := matches_value_of_mem_table row member
  have sizeAgrees := agrees_sizeCode member scalar format
  have free := (free_of_mem_table row member scalar).2.2
  have narrow : format.sizeCode < 2 ^ 2 := by cases format <;> decide
  have registers : format.registers = if format.sizeCode = 3 then .double else .single := by
    cases format <;> rfl
  rcases Mnemonic.layout_of_isScalar scalar with layout | layout
  · simp only [Mnemonic.registerFields, layout, List.forall_mem_cons] at free ⊢
    rcases free with ⟨destination, source, _⟩
    let operands : Operands := .scalarPair ⟨(number ⟨12, 22⟩).toNat, (number ⟨0, 5⟩).toNat,
      format.sizeCode, format.registers⟩
    have encodable : operands.Encodable := ⟨BitVec.isLt _, BitVec.isLt _, narrow, registers⟩
    have agree : ∀ filling ∈ operands.fillings, filling.Agrees row := by
      simp only [operands, Operands.fillings, List.forall_mem_append]
      exact ⟨⟨destination.agrees_scalar own _ _, source.agrees_scalar own _ _⟩,
        List.forall_mem_singleton.mpr sizeAgrees⟩
    rcases exists_word_of_operands member scalar operands layout.symm encodable agree with
      ⟨word, found, decoded⟩
    rcases ScalarPair.mk.inj (Operands.scalarPair.inj decoded) with
      ⟨isDestination, isSource, size, _⟩
    refine ⟨word, found, (Word.flags_of_size size).2, ?_, ?_, List.forall_mem_nil _⟩
    · rw [Word.scalarSpan_of_size size, isDestination]
    · rw [Word.scalarSpan_of_size size, isSource]
  · simp only [Mnemonic.registerFields, layout, List.forall_mem_cons] at free ⊢
    rcases free with ⟨destination, left, right, _⟩
    let operands : Operands := .scalarTriple ⟨(number ⟨12, 22⟩).toNat, (number ⟨16, 7⟩).toNat,
      (number ⟨0, 5⟩).toNat, format.sizeCode, format.registers⟩
    have encodable : operands.Encodable :=
      ⟨BitVec.isLt _, BitVec.isLt _, BitVec.isLt _, narrow, registers⟩
    have agree : ∀ filling ∈ operands.fillings, filling.Agrees row := by
      simp only [operands, Operands.fillings, List.forall_mem_append]
      exact ⟨⟨⟨destination.agrees_scalar own _ _, left.agrees_scalar own _ _⟩,
        right.agrees_scalar own _ _⟩, List.forall_mem_singleton.mpr sizeAgrees⟩
    rcases exists_word_of_operands member scalar operands layout.symm encodable agree with
      ⟨word, found, decoded⟩
    rcases ScalarTriple.mk.inj (Operands.scalarTriple.inj decoded) with
      ⟨isDestination, isLeft, isRight, size, _⟩
    refine ⟨word, found, (Word.flags_of_size size).2, ?_, ?_, ?_, List.forall_mem_nil _⟩
    · rw [Word.scalarSpan_of_size size, isDestination]
    · rw [Word.scalarSpan_of_size size, isLeft]
    · rw [Word.scalarSpan_of_size size, isRight]

end Guest

end LaneLift
