import LaneLift.Proofs.Guest.Checked
import LaneLift.Proofs.Guest.Immediate
import LaneLift.Proofs.Lifting.Integer
import LaneLift.Proofs.Lifting.Planning

/-!
# Moves of immediates

A move of an immediate fills its destination with the pattern of the immediate, or with its
complement, whatever the registers hold.
-/

namespace LaneLift

/-- If every element of a register has the low bits of a constant, every 64 bits of the register
repeat these bits. -/
theorem RegisterFile.getLsbD_number_of_elements {file : RegisterFile}
    {offset bytes perHalf halves : Nat} (fill : bytes * perHalf = 8) {constant : BitVec 64}
    (elements : ∀ index < perHalf * halves,
      file.number (offset + bytes * index) (8 * bytes) = constant.setWidth (8 * bytes))
    {half : Nat} (insideRegister : half < halves) {bit : Nat} (inside : bit < 64) :
    (file.number (offset + 8 * half) 64).getLsbD bit = constant.getLsbD (bit % (8 * bytes)) := by
  have positive : 0 < 8 * bytes := by
    rcases Nat.eq_zero_or_pos bytes with rfl | positive
    · omega
    · omega
  have place : offset + 8 * half + bytes * (bit / (8 * bytes)) =
      offset + bytes * (perHalf * half + bit / (8 * bytes)) := by
    rw [Nat.mul_add, ← Nat.mul_assoc, fill, Nat.add_assoc]
  have element : bit / (8 * bytes) < perHalf := by
    apply Nat.div_lt_of_lt_mul
    rw [Nat.mul_assoc, fill]
    exact inside
  have listed : perHalf * half + bit / (8 * bytes) < perHalf * halves :=
    calc perHalf * half + bit / (8 * bytes) < perHalf * half + perHalf := by omega
      _ = perHalf * (half + 1) := (Nat.mul_succ perHalf half).symm
      _ ≤ perHalf * halves := Nat.mul_le_mul_left perHalf insideRegister
  rw [getLsbD_number_element file _ (by decide) ⟨bytes, rfl⟩ positive inside,
    Nat.mul_div_cancel_left bytes (by decide), place, elements _ listed, BitVec.getLsbD_setWidth,
    decide_eq_true (Nat.mod_lt bit positive), Bool.true_and]

namespace Guest.Word

def movedPattern (word : Word) : BitVec 64 :=
  let pattern := immediatePattern (word.extractLsb' 5 1) (word.extractLsb' 8 4)
    (word.extractLsb' 24 1 ++ word.extractLsb' 16 3 ++ word.extractLsb' 0 4)
  if word.field 5 1 = 1 ∧ word.field 8 4 < 14 then ~~~pattern else pattern

end Guest.Word

namespace Lifting

open Guest (VectorImmediate Word)
open Lane (Code Datum)

def inverts (operands : VectorImmediate) : Bool :=
  operands.op ≠ 0 && operands.cmode < 14

def moved (operands : VectorImmediate) : BitVec 64 :=
  if inverts operands then ~~~operands.immediate else operands.immediate

def moveBody (operands : VectorImmediate) : Body :=
  if inverts operands then .unary .bnot else .operand

variable {operands : VectorImmediate}

theorem yields_moveBody [FloatArithmetic] (registers : RegisterFile) (index : Nat) :
    (moveBody operands).Yields (operands.form.inputs registers index)
      ((moved operands).setWidth operands.form.shape.type.width) := by
  have inputs : operands.form.inputs registers index = [.scalar .i64 operands.immediate] := rfl
  rw [moveBody, moved, inputs]
  split
  · refine ⟨.i64, ~~~operands.immediate, ?_, rfl⟩
    rw [Body.evaluate?_unary, Datum.unary?, Lane.ScalarType.unary?_eq_wrapping rfl]
    rfl
  · exact ⟨.i64, operands.immediate, Body.evaluate?_operand _, rfl⟩

theorem lanes_eq_mul_halves (small : operands.size < 4)
    (vector : operands.registers = .double ∨ operands.registers = .quad) :
    operands.form.shape.lanes = 2 ^ (3 - operands.size) * (operands.registers.bytes / 8) := by
  have sizes : operands.size = 0 ∨ operands.size = 1 ∨ operands.size = 2 ∨ operands.size = 3 := by
    omega
  show operands.registers.bytes >>> operands.size = _
  rcases vector with double | quad <;> rcases sizes with size | size | size | size
  all_goals simp [*, RegisterClass.bytes]

theorem reaches_move [FloatArithmetic] (fits : operands.form.Fits) (small : operands.size < 4)
    (registers : RegisterFile) :
    ∃ values after,
      Code.Reaches ⟨[], registers⟩ (operands.form.emission fun _ => moveBody operands).code
        ⟨values, after⟩ ∧
      (∀ half < operands.registers.bytes / 8, ∀ bit < 64,
        (after.number (operands.registers.offset operands.destination + 8 * half) 64).getLsbD bit =
          (moved operands).getLsbD (bit % (8 * 2 ^ operands.size))) ∧
      ∀ offset, operands.form.Spares offset → after.byte offset = registers.byte offset := by
  rcases fits.reaches_emission fun index _ => yields_moveBody registers index with
    ⟨values, after, run, written, spared⟩
  refine ⟨values, after, run, ?_, spared⟩
  have width : operands.form.shape.type.width = 8 * 2 ^ operands.size :=
    width_integerOfSize small
  have fill : 2 ^ operands.size * 2 ^ (3 - operands.size) = 8 := by
    rw [← Nat.pow_add, Nat.add_sub_cancel' (Nat.le_of_lt_succ small)]
  have lanes : operands.form.shape.lanes =
      2 ^ (3 - operands.size) * (operands.registers.bytes / 8) :=
    lanes_eq_mul_halves small fits.vector
  have elements : ∀ index < 2 ^ (3 - operands.size) * (operands.registers.bytes / 8),
      after.number (operands.registers.offset operands.destination + 2 ^ operands.size * index)
        (8 * 2 ^ operands.size) = (moved operands).setWidth (8 * 2 ^ operands.size) := by
    intro index inside
    rw [← lanes] at inside
    have element := written index inside
    rw [VectorForm.laneOffset, width, Nat.mul_div_cancel_left _ (by decide)] at element
    exact element
  intro half insideRegister bit inside
  exact RegisterFile.getLsbD_number_of_elements fill elements insideRegister inside

theorem getLsbD_movedPattern {word : Word} (small : operands.size < 4)
    (op : operands.op = word.field 5 1) (cmode : operands.cmode = word.field 8 4)
    (expanded : ⟨operands.immediate, operands.size⟩ =
      Guest.expandImmediate (word.field 8 4) (word.field 5 1)
        (word.extractLsb' 24 1 ++ word.extractLsb' 16 3 ++ word.extractLsb' 0 4).toNat)
    {bit : Nat} (inside : bit < 64) :
    (moved operands).getLsbD (bit % (8 * 2 ^ operands.size)) = word.movedPattern.getLsbD bit := by
  let pattern := Guest.immediatePattern (word.extractLsb' 5 1) (word.extractLsb' 8 4)
    (word.extractLsb' 24 1 ++ word.extractLsb' 16 3 ++ word.extractLsb' 0 4)
  have element : operands.immediate.getLsbD (bit % (8 * 2 ^ operands.size)) =
      pattern.getLsbD bit := by
    have repeated := Guest.ExpandedImmediate.getLsbD_repeated
      (show (⟨operands.immediate, operands.size⟩ : Guest.ExpandedImmediate).size < 4 from small)
      inside
    rw [← repeated, expanded]
    exact congrArg (·.getLsbD bit) (Guest.repeated_expandImmediate _ _ _)
  have insideElement : bit % (8 * 2 ^ operands.size) < 64 :=
    Nat.lt_of_le_of_lt (Nat.mod_le _ _) inside
  have narrow : word.field 5 1 < 2 := word.field_lt 5 1
  have sameCase : inverts operands = true ↔ word.field 5 1 = 1 ∧ word.field 8 4 < 14 := by
    rw [inverts, op, cmode]
    simp only [ne_eq, Bool.and_eq_true, decide_eq_true_eq]
    omega
  rw [moved, Guest.Word.movedPattern]
  by_cases complement : word.field 5 1 = 1 ∧ word.field 8 4 < 14
  · rw [if_pos (sameCase.mpr complement), if_pos complement, BitVec.getLsbD_not,
      BitVec.getLsbD_not, element, decide_eq_true inside, decide_eq_true insideElement]
  · rw [if_neg fun inverted => complement (sameCase.mp inverted), if_neg complement, element]

end Lifting

open Guest (Address Row Word)

/-- A word that moves an immediate is lifted, and its code run on its own leaves the pattern of
the immediate, or its complement, in every 64 bits of the destination, and no other byte
changed. The element that an immediate expands to fits its size for any codes, also in machine
arithmetic, and of the immediate only the low byte counts. -/
theorem run_liftWord_immediate [FloatArithmetic] :
    (∀ (word : Word) (row : Row), Guest.lookup? word = some row →
      row.descriptor.mnemonic = .vmovI → word.field 8 4 % 2 = 0 ∨ 12 ≤ word.field 8 4 →
      ∀ (address : Address) (name : String) (registers : RegisterFile),
        (liftWord {} address word).result = .ok () ∧
        ∃ after,
          (Lane.CodeBuilder.append ({ name := name } : Lane.Function)
            (liftWord {} address word).code).run registers = ⟨after, .ok ()⟩ ∧
          (∀ half < word.vectorClass.bytes / 8,
            after.number (word.vectorClass.offset (word.doubleNumber 12 22) + 8 * half) 64 =
              word.movedPattern) ∧
          ∀ offset, (offset < word.vectorClass.offset (word.doubleNumber 12 22) ∨
              word.vectorClass.offset (word.doubleNumber 12 22) + word.vectorClass.bytes ≤ offset) →
            after.byte offset = registers.byte offset) ∧
    (∀ cmode op imm8 : Nat,
      (Guest.expandImmediate cmode op imm8).size < 4 ∧
      (Guest.expandImmediate cmode op imm8).element.toNat <
        2 ^ (8 * 2 ^ (Guest.expandImmediate cmode op imm8).size) ∧
      ∀ other, imm8 % 2 ^ 8 = other % 2 ^ 8 →
        Guest.expandImmediate cmode op imm8 = Guest.expandImmediate cmode op other) ∧
    ∀ cmode op imm8 : BitVec 32, Guest.expandImmediate? cmode op imm8 =
      some (Guest.expandImmediate cmode.toNat op.toNat imm8.toNat) := by
  refine ⟨?_, ?_, Guest.expandImmediate?_eq⟩
  · intro word row found mnemonic mode address name registers
    rcases Guest.decode_vectorImmediate word with
      ⟨operands, decodes, destination, small, isClass, op, cmode, expanded⟩
    have fits := Lifting.fits_immediate destination small isClass
    have layout : row.descriptor.layout = .vectorImmediate := by
      rw [Guest.layout_of_lookup? found, mnemonic]
      rfl
    have keeps : Lifting.modifiesDestination operands.cmode = false := by
      rw [cmode, Lifting.modifiesDestination]
      simp only [Bool.and_eq_false_iff, decide_eq_false_iff_not]
      omega
    have planned : Lifting.plan? row.descriptor.mnemonic (row.descriptor.layout.decode word) =
        some (.vector operands.form (Lifting.moveBody operands)) := by
      rw [mnemonic, layout, decodes, Lifting.plan?, Lifting.immediatePlan?, keeps]
      rfl
    rcases liftWord_of_plan found (Settings.allows_default _) planned with ⟨code, result⟩
    rcases Lifting.reaches_move fits small registers with ⟨values, after, run, written, spared⟩
    refine ⟨?_, after, ?_, ?_, ?_⟩
    · rw [result]
      exact (Lifting.sound_of_plan planned).result
    · rw [code]
      exact Lane.Function.run_append_empty run
    · intro half insideRegister
      rw [isClass, destination] at written
      apply BitVec.eq_of_getLsbD_eq
      intro bit inside
      rw [written half insideRegister bit inside]
      exact Lifting.getLsbD_movedPattern small op cmode expanded inside
    · intro offset outside
      apply spared
      rw [← isClass, ← destination] at outside
      exact outside
  · intro cmode op imm8
    exact ⟨Guest.size_expandImmediate_lt cmode op imm8,
      Guest.toNat_element_expandImmediate_lt cmode op imm8,
      fun _ low => Guest.expandImmediate_eq_of_low_byte_eq cmode op imm8 low⟩

/-- The word of `vmvn.i16 q1, #0xab`. -/
private def moveComplement : Word := 0xf382287b

theorem run_liftWord_immediate_complement :
    (∃ row, Guest.lookup? moveComplement = some row ∧ row.descriptor.mnemonic = .vmovI) ∧
    (moveComplement.field 8 4 % 2 = 0 ∨ 12 ≤ moveComplement.field 8 4) ∧
    ∃ after,
      (Lane.CodeBuilder.append ({ name := "vmvn" } : Lane.Function)
        (liftWord {} 0 moveComplement).code).run .zero = ⟨after, .ok ()⟩ ∧
      after.number 16 64 = 0xff54ff54ff54ff54 ∧ after.number 24 64 = 0xff54ff54ff54ff54 ∧
      after.byte 15 = 0 := by
  let row : Row := ⟨0xfeb80090, 0xf2800010, ⟨.vmovI, .vectorImmediate⟩⟩
  have found : Guest.lookup? moveComplement = some row := by decide
  have mode : moveComplement.field 8 4 % 2 = 0 ∨ 12 ≤ moveComplement.field 8 4 := by decide
  have result := run_liftWord_immediate.1 moveComplement row found rfl mode 0 "vmvn" .zero
  rcases result with ⟨_, after, run, written, spared⟩
  have pattern : moveComplement.movedPattern = 0xff54ff54ff54ff54 := by decide
  refine ⟨⟨row, found, rfl⟩, mode, after, run, ?_, ?_, ?_⟩
  · rw [← pattern]
    exact written 0 (by decide)
  · rw [← pattern]
    exact written 1 (by decide)
  · rw [spared 15 (.inl (by decide))]
    decide

end LaneLift
