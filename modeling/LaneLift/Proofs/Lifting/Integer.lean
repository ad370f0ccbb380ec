import LaneLift.Proofs.Lane.Arithmetic
import LaneLift.Proofs.Lifting.Elementwise
import LaneLift.Proofs.Lifting.Word

/-!
# Vector instructions on integers

From the word to the registers: what the Advanced SIMD instructions on integers
compute is stated in the width of their elements, and lifting such a word and
running its code does just that.
-/

namespace LaneLift

namespace Guest

/-- The integer that an instruction makes of an element of its destination and the
same elements of its sources; on one source, the last one counts. -/
def Mnemonic.integer? (unsigned : Bool) {width : Nat} (d n m : BitVec width) :
    Mnemonic → Option (BitVec width)
  | .vaddI => some (n + m)
  | .vsubI => some (n - m)
  | .vmulI => some (n * m)
  | .vmlaI => some (d + n * m)
  | .vmlsI => some (d - n * m)
  | .vmax =>
      if unsigned then some (.ofNat width (max n.toNat m.toNat))
      else some (.ofInt width (max n.toInt m.toInt))
  | .vmin =>
      if unsigned then some (.ofNat width (min n.toNat m.toNat))
      else some (.ofInt width (min n.toInt m.toInt))
  | .vand => some (n &&& m)
  | .vorr => some (n ||| m)
  | .veor => some (n ^^^ m)
  | .vabsV => some (.ofNat width m.toInt.natAbs)
  | .vnegV => some (-m)
  | _ => none

def Mnemonic.isBitwise : Mnemonic → Bool
  | .vand | .vorr | .veor => true
  | _ => false

namespace Word

def computesIntegers (word : Word) : Mnemonic → Bool
  | .vaddI | .vsubI | .vmulI | .vmlaI | .vmlsI | .vmax | .vmin | .vand | .vorr | .veor => true
  | .vabsV | .vnegV => !word.flag 10
  | _ => false

def elementSize (word : Word) : Mnemonic → Nat
  | .vabsV | .vnegV => word.field 18 2
  | _ => word.field 20 2

theorem elementSize_lt (word : Word) (mnemonic : Mnemonic) : word.elementSize mnemonic < 4 := by
  cases mnemonic <;> exact word.field_lt _ 2

def vector (word : Word) (file : RegisterFile) (low extension : Nat) :
    BitVec (8 * word.vectorClass.bytes) :=
  file.number (word.vectorClass.offset (word.doubleNumber low extension)) _

def element (word : Word) (mnemonic : Mnemonic) (file : RegisterFile) (low extension index : Nat) :
    BitVec (8 * 2 ^ word.elementSize mnemonic) :=
  file.number (word.vectorClass.offset (word.doubleNumber low extension) +
    2 ^ word.elementSize mnemonic * index) _

end Word

end Guest

/-! ## Extended elements -/

namespace Lifting

open Guest (Layout Mnemonic Row VectorPair VectorTriple Word)
open Lane (Datum Opcode ScalarType)

def LaneReading.suits (opcode : Opcode) : LaneReading → Bool
  | .float => false
  | .signed => opcode ≠ .umax && opcode ≠ .umin
  | .unsigned => opcode ≠ .smax && opcode ≠ .smin

namespace Body

variable [FloatArithmetic] {type : ScalarType} {opcode : Opcode}

theorem yields_unary {x value : BitVec type.width}
    (computes : opcode.wrappingUnary? x = some value) :
    (unary opcode).Yields [LaneReading.signed.present type x] value := by
  have extended := Opcode.wrappingUnary?_signExtend type.width_le opcode x
  rw [computes] at extended
  rcases Option.map_eq_some_iff.mp extended with ⟨wide, isWide, truncated⟩
  refine ⟨.i64, wide, ?_, truncated⟩
  rw [evaluate?_unary, LaneReading.present, Datum.unary?, ScalarType.unary?_eq_wrapping rfl,
    isWide, Option.map_some]

theorem yields_binary {reading : LaneReading} (suits : reading.suits opcode = true)
    {x y value : BitVec type.width} (computes : opcode.wrappingBinary? x y = some value) :
    (binary opcode).Yields [reading.present type x, reading.present type y] value := by
  have yieldsWide : ∀ left right : BitVec 64,
      (opcode.wrappingBinary? left right).map (·.setWidth type.width) = some value →
        (binary opcode).Yields [.scalar .i64 left, .scalar .i64 right] value := by
    intro left right extended
    rcases Option.map_eq_some_iff.mp extended with ⟨wide, isWide, truncated⟩
    refine ⟨.i64, wide, ?_, truncated⟩
    rw [evaluate?_binary, Datum.binary?, dif_pos rfl, ScalarType.binary?_eq_wrapping rfl, isWide,
      Option.map_some]
  cases reading with
  | float => cases suits
  | signed =>
      have signed : opcode ≠ .umax ∧ opcode ≠ .umin := by
        simpa [LaneReading.suits] using suits
      apply yieldsWide
      rw [Opcode.wrappingBinary?_signExtend type.width_le signed, computes]
  | unsigned =>
      have unsigned : opcode ≠ .smax ∧ opcode ≠ .smin := by
        simpa [LaneReading.suits] using suits
      apply yieldsWide
      rw [Opcode.wrappingBinary?_zeroExtend type.width_le unsigned, computes]

theorem yields_accumulate {multiply combine : Opcode} (multiplyWraps : multiply.compares = false)
    (combineWraps : combine.compares = false) {d x y product value : BitVec type.width}
    (multiplied : multiply.wrappingBinary? x y = some product)
    (combined : combine.wrappingBinary? d product = some value) :
    (accumulate multiply combine).Yields [LaneReading.unsigned.present type d,
      LaneReading.unsigned.present type x, LaneReading.unsigned.present type y] value := by
  have wideProduct := Opcode.wrappingBinary?_setWidth type.width_le multiplyWraps
    (x.setWidth 64) (y.setWidth 64)
  rw [Lane.truncate_zeroExtend type.width_le, Lane.truncate_zeroExtend type.width_le, multiplied]
    at wideProduct
  rcases Option.map_eq_some_iff.mp wideProduct with ⟨made, isMade, rfl⟩
  have wideSum := Opcode.wrappingBinary?_setWidth type.width_le combineWraps (d.setWidth 64) made
  rw [Lane.truncate_zeroExtend type.width_le, combined] at wideSum
  rcases Option.map_eq_some_iff.mp wideSum with ⟨wide, isWide, truncated⟩
  refine ⟨.i64, wide, ?_, truncated⟩
  rw [evaluate?_accumulate, LaneReading.present, LaneReading.present, LaneReading.present,
    Datum.binary?, dif_pos rfl, ScalarType.binary?_eq_wrapping rfl, isMade, Option.map_some,
    Option.bind_some, Datum.binary?, dif_pos rfl, ScalarType.binary?_eq_wrapping rfl, isWide,
    Option.map_some]

end Body

/-! ## Maxima, minima and absolute values -/

section Numbers

variable {width : Nat} (x y : BitVec width)

theorem ofNat_max : BitVec.ofNat width (max x.toNat y.toNat) = if x.ule y then y else x := by
  by_cases ordered : x.toNat ≤ y.toNat
  · simp [BitVec.ule, ordered]
  · simp [BitVec.ule, ordered, Nat.max_eq_left (Nat.le_of_not_le ordered)]

theorem ofNat_min : BitVec.ofNat width (min x.toNat y.toNat) = if x.ule y then x else y := by
  by_cases ordered : x.toNat ≤ y.toNat
  · simp [BitVec.ule, ordered]
  · simp [BitVec.ule, ordered, Nat.min_eq_right (Nat.le_of_not_le ordered)]

theorem ofInt_max : BitVec.ofInt width (max x.toInt y.toInt) = if x.sle y then y else x := by
  by_cases ordered : x.toInt ≤ y.toInt
  · simp [BitVec.sle, ordered]
  · simp [BitVec.sle, ordered, max_eq_left (le_of_not_ge ordered)]

theorem ofInt_min : BitVec.ofInt width (min x.toInt y.toInt) = if x.sle y then x else y := by
  by_cases ordered : x.toInt ≤ y.toInt
  · simp [BitVec.sle, ordered]
  · simp [BitVec.sle, ordered, min_eq_right (le_of_not_ge ordered)]

theorem ofNat_natAbs : BitVec.ofNat width x.toInt.natAbs = x.abs := by
  rw [← BitVec.ofInt_natCast, BitVec.abs_eq, BitVec.msb_eq_toInt]
  by_cases negative : x.toInt < 0
  · have magnitude : (x.toInt.natAbs : Int) = -x.toInt := by omega
    simp [negative, magnitude, BitVec.ofInt_neg]
  · have magnitude : (x.toInt.natAbs : Int) = x.toInt := by omega
    simp [negative, magnitude]

end Numbers

/-! ## Plans -/

structure PlansInteger [FloatArithmetic] (word : Word) (mnemonic : Mnemonic)
    (template : VectorTemplate)
    (reading : LaneReading) (body : Body) : Prop where
  planned : plan? mnemonic (mnemonic.layout.decode word) =
    some (.vector (template.form reading) body)
  decoded : template.Decoded
  integer : reading ≠ .float
  destination : template.destination = word.doubleNumber 12 22
  size : template.size = word.elementSize mnemonic
  registers : template.registers = word.vectorClass
  yields : ∀ lane : Nat → BitVec (template.laneType reading).width, ∃ value,
    mnemonic.integer? (word.flag 24) (lane (word.doubleNumber 12 22))
      (lane (word.doubleNumber 16 7)) (lane (word.doubleNumber 0 5)) = some value ∧
    body.Yields (template.sources.map fun source => reading.present _ (lane source)) value

variable {word : Word} {mnemonic : Mnemonic}

theorem plansInteger_unary [FloatArithmetic] (opcode : Opcode)
    (layout : mnemonic.layout = .vectorPair)
    (sizeCode : word.elementSize mnemonic = word.field 18 2)
    (planned : ∀ operands : VectorPair, operands.float = word.flag 10 →
      pairPlan? mnemonic operands = some (.vector (operands.unaryForm .signed) (.unary opcode)))
    (element : ∀ {width : Nat} (d n m : BitVec width), ∃ value,
      mnemonic.integer? (word.flag 24) d n m = some value ∧
        opcode.wrappingUnary? m = some value) :
    ∃ template reading body, PlansInteger word mnemonic template reading body := by
  rcases Guest.decode_vectorPair word with
    ⟨operands, decodes, destination, source, size, float, registers⟩
  refine ⟨.unary operands, .signed, .unary opcode, ?_, VectorTemplate.decoded_unary decodes,
    by decide, destination, size.trans sizeCode.symm, registers, ?_⟩
  · rw [layout, decodes]
    exact planned operands float
  · intro lane
    rcases element (lane (word.doubleNumber 12 22)) (lane (word.doubleNumber 16 7))
      (lane (word.doubleNumber 0 5)) with ⟨value, isInteger, isValue⟩
    rw [← source] at isValue
    exact ⟨value, isInteger, Body.yields_unary isValue⟩

theorem plansInteger_binary [FloatArithmetic] (reading : LaneReading) (opcode : Opcode)
    (layout : mnemonic.layout = .vectorTriple)
    (sizeCode : word.elementSize mnemonic = word.field 20 2)
    (planned : ∀ operands : VectorTriple, operands.unsigned = word.flag 24 →
      triplePlan? mnemonic operands =
        some (.vector (operands.binaryForm reading) (.binary opcode)))
    (suits : reading.suits opcode = true)
    (element : ∀ {width : Nat} (d n m : BitVec width), ∃ value,
      mnemonic.integer? (word.flag 24) d n m = some value ∧
        opcode.wrappingBinary? n m = some value) :
    ∃ template reading body, PlansInteger word mnemonic template reading body := by
  rcases Guest.decode_vectorTriple word with
    ⟨operands, decodes, destination, left, right, size, unsigned, registers⟩
  have integer : reading ≠ .float := by
    rintro rfl
    cases suits
  refine ⟨.binary operands, reading, .binary opcode, ?_, VectorTemplate.decoded_binary decodes,
    integer, destination, size.trans sizeCode.symm, registers, ?_⟩
  · rw [layout, decodes]
    exact planned operands unsigned
  · intro lane
    rcases element (lane (word.doubleNumber 12 22)) (lane (word.doubleNumber 16 7))
      (lane (word.doubleNumber 0 5)) with ⟨value, isInteger, isValue⟩
    rw [← left, ← right] at isValue
    exact ⟨value, isInteger, Body.yields_binary suits isValue⟩

theorem plansInteger_ternary [FloatArithmetic] (combine : Opcode)
    (layout : mnemonic.layout = .vectorTriple)
    (sizeCode : word.elementSize mnemonic = word.field 20 2)
    (planned : ∀ operands : VectorTriple, triplePlan? mnemonic operands =
      some (.vector (operands.ternaryForm .unsigned) (.accumulate .imul combine)))
    (wraps : combine.compares = false)
    (element : ∀ {width : Nat} (d n m : BitVec width), ∃ value,
      mnemonic.integer? (word.flag 24) d n m = some value ∧
        combine.wrappingBinary? d (n * m) = some value) :
    ∃ template reading body, PlansInteger word mnemonic template reading body := by
  rcases Guest.decode_vectorTriple word with
    ⟨operands, decodes, destination, left, right, size, _, registers⟩
  refine ⟨.ternary operands, .unsigned, .accumulate .imul combine, ?_,
    VectorTemplate.decoded_ternary decodes, by decide, destination, size.trans sizeCode.symm,
    registers, ?_⟩
  · rw [layout, decodes]
    exact planned operands
  · intro lane
    rcases element (lane (word.doubleNumber 12 22)) (lane (word.doubleNumber 16 7))
      (lane (word.doubleNumber 0 5)) with ⟨value, isInteger, isValue⟩
    rw [← destination, ← left, ← right] at isValue
    exact ⟨value, isInteger, Body.yields_accumulate rfl wraps rfl isValue⟩

theorem plansInteger_ordered [FloatArithmetic] (unsignedOpcode signedOpcode : Opcode)
    (layout : mnemonic.layout = .vectorTriple)
    (sizeCode : word.elementSize mnemonic = word.field 20 2)
    (planned : ∀ operands : VectorTriple, triplePlan? mnemonic operands =
      if operands.unsigned then
        some (.vector (operands.binaryForm .unsigned) (.binary unsignedOpcode))
      else
        some (.vector (operands.binaryForm .signed) (.binary signedOpcode)))
    (unsignedSuits : LaneReading.unsigned.suits unsignedOpcode = true)
    (signedSuits : LaneReading.signed.suits signedOpcode = true)
    (unsignedElement : ∀ {width : Nat} (d n m : BitVec width), ∃ value,
      mnemonic.integer? true d n m = some value ∧
        unsignedOpcode.wrappingBinary? n m = some value)
    (signedElement : ∀ {width : Nat} (d n m : BitVec width), ∃ value,
      mnemonic.integer? false d n m = some value ∧
        signedOpcode.wrappingBinary? n m = some value) :
    ∃ template reading body, PlansInteger word mnemonic template reading body := by
  cases unsigned : word.flag 24 with
  | true =>
      apply plansInteger_binary .unsigned unsignedOpcode layout sizeCode _ unsignedSuits
      · intro width d n m
        rw [unsigned]
        exact unsignedElement d n m
      · intro operands isUnsigned
        rw [planned, isUnsigned, unsigned, if_pos rfl]
  | false =>
      apply plansInteger_binary .signed signedOpcode layout sizeCode _ signedSuits
      · intro width d n m
        rw [unsigned]
        exact signedElement d n m
      · intro operands isUnsigned
        rw [planned, isUnsigned, unsigned, if_neg (by decide)]

theorem exists_plansInteger [FloatArithmetic] (integer : word.computesIntegers mnemonic = true) :
    ∃ template reading body, PlansInteger word mnemonic template reading body := by
  cases mnemonic with
  | vaddI | vsubI | vmulI | vand | vorr | veor =>
      exact plansInteger_binary .unsigned _ rfl rfl (fun _ _ => rfl) rfl
        fun d n m => ⟨_, rfl, rfl⟩
  | vmlaI | vmlsI =>
      exact plansInteger_ternary _ rfl rfl (fun _ => rfl) rfl fun d n m => ⟨_, rfl, rfl⟩
  | vmax =>
      exact plansInteger_ordered .umax .smax rfl rfl (fun _ => rfl) rfl rfl
        (fun d n m => ⟨_, rfl, congrArg some (ofNat_max n m).symm⟩)
        fun d n m => ⟨_, rfl, congrArg some (ofInt_max n m).symm⟩
  | vmin =>
      exact plansInteger_ordered .umin .smin rfl rfl (fun _ => rfl) rfl rfl
        (fun d n m => ⟨_, rfl, congrArg some (ofNat_min n m).symm⟩)
        fun d n m => ⟨_, rfl, congrArg some (ofInt_min n m).symm⟩
  | vabsV =>
      have notFloat : word.flag 10 = false := by simpa [Word.computesIntegers] using integer
      apply plansInteger_unary .iabs rfl rfl
      · intro operands isFloat
        rw [pairPlan?, isFloat, notFloat, if_neg (by decide)]
      · intro width d n m
        exact ⟨_, rfl, congrArg some (ofNat_natAbs m).symm⟩
  | vnegV =>
      have notFloat : word.flag 10 = false := by simpa [Word.computesIntegers] using integer
      apply plansInteger_unary .ineg rfl rfl
      · intro operands isFloat
        rw [pairPlan?, isFloat, notFloat, if_neg (by decide)]
      · intro width d n m
        exact ⟨_, rfl, rfl⟩
  | _ => simp [Word.computesIntegers] at integer

theorem width_integerOfSize {size : Nat} (small : size < 4) :
    (ScalarType.integerOfSize size).width = 8 * 2 ^ size := by
  have sizes : size = 0 ∨ size = 1 ∨ size = 2 ∨ size = 3 := by omega
  rcases sizes with rfl | rfl | rfl | rfl <;> rfl

theorem PlansInteger.reaches_emission [FloatArithmetic] {template : VectorTemplate}
    {reading : LaneReading}
    {body : Body} (plans : PlansInteger word mnemonic template reading body)
    (registers : RegisterFile) :
    ∃ values after,
      Lane.Code.Reaches ⟨[], registers⟩ ((template.form reading).emission fun _ => body).code
        ⟨values, after⟩ ∧
      (∀ index < word.vectorClass.bytes / 2 ^ word.elementSize mnemonic,
        mnemonic.integer? (word.flag 24) (word.element mnemonic registers 12 22 index)
          (word.element mnemonic registers 16 7 index)
          (word.element mnemonic registers 0 5 index) =
            some (word.element mnemonic after 12 22 index)) ∧
      ∀ offset, (offset < word.vectorClass.offset (word.doubleNumber 12 22) ∨
          word.vectorClass.offset (word.doubleNumber 12 22) + word.vectorClass.bytes ≤ offset) →
        after.byte offset = registers.byte offset := by
  have width : (template.laneType reading).width = 8 * 2 ^ word.elementSize mnemonic := by
    rw [← plans.size, ← width_integerOfSize plans.decoded.size]
    cases reading with
    | float => exact absurd rfl plans.integer
    | signed | unsigned => rfl
  have lanes : template.lanes reading =
      word.vectorClass.bytes / 2 ^ word.elementSize mnemonic := by
    rw [VectorTemplate.lanes, width, plans.registers, Nat.mul_div_mul_left _ _ (by omega)]
  choose value isInteger isYielded using fun index =>
    plans.yields fun source => template.lane reading registers source index
  let bodies : Nat → Body := fun _ => body
  have yields : ∀ index < template.lanes reading, (bodies index).Yields
      (template.sources.map fun source => reading.present (template.laneType reading)
        (template.lane reading registers source index)) (value index) :=
    fun index _ => isYielded index
  rcases plans.decoded.reaches_emission yields with ⟨values, after, run, written, spared⟩
  refine ⟨values, after, run, ?_, ?_⟩
  · intro index inside
    rw [← lanes] at inside
    have element := isInteger index
    rw [← written index inside, plans.destination] at element
    simp only [VectorTemplate.lane, plans.registers] at element
    rw [width, Nat.mul_div_cancel_left _ (by omega)] at element
    exact element
  · intro offset outside
    apply spared
    rw [VectorTemplate.Spares, plans.registers, plans.destination]
    exact outside

/-! ## Whole registers -/

/-- The elements of a register are its bits, whatever their size. -/
theorem getLsbD_vector (word : Word) (mnemonic : Mnemonic) (file : RegisterFile)
    (low extension : Nat) {bit : Nat} (inside : bit < 8 * word.vectorClass.bytes) :
    (word.vector file low extension).getLsbD bit =
      (word.element mnemonic file low extension
        (bit / (8 * 2 ^ word.elementSize mnemonic))).getLsbD
          (bit % (8 * 2 ^ word.elementSize mnemonic)) := by
  have positive : 0 < 8 * 2 ^ word.elementSize mnemonic :=
    Nat.mul_pos (by decide) (Nat.two_pow_pos _)
  rw [Word.vector, Word.element, RegisterFile.getLsbD_number_element file _ ⟨_, rfl⟩ ⟨_, rfl⟩
    positive inside, Nat.mul_div_cancel_left _ (by omega)]

theorem div_elements_lt {bytes bit size : Nat} (whole : 2 ^ size ∣ bytes)
    (inside : bit < 8 * bytes) : bit / (8 * 2 ^ size) < bytes / 2 ^ size := by
  rcases whole with ⟨count, rfl⟩
  rw [Nat.mul_div_cancel_left _ (Nat.two_pow_pos size)]
  apply Nat.div_lt_of_lt_mul
  rw [Nat.mul_assoc]
  exact inside

theorem elements_dvd_bytes (word : Word) (mnemonic : Mnemonic) :
    2 ^ word.elementSize mnemonic ∣ word.vectorClass.bytes := by
  have small := word.elementSize_lt mnemonic
  have sizes : word.elementSize mnemonic = 0 ∨ word.elementSize mnemonic = 1 ∨
      word.elementSize mnemonic = 2 ∨ word.elementSize mnemonic = 3 := by omega
  rcases word.vectorClass_cases with double | quad <;> rcases sizes with size | size | size | size
  all_goals simp [*, RegisterClass.bytes]

/-- What is combined bit by bit in every element is so in the whole register. -/
theorem vector_of_elements (word : Word) (mnemonic : Mnemonic) {registers after : RegisterFile}
    (combine : (width : Nat) → BitVec width → BitVec width → BitVec width)
    (combineBit : Bool → Bool → Bool)
    (bits : ∀ width (x y : BitVec width), ∀ bit < width,
      (combine width x y).getLsbD bit = combineBit (x.getLsbD bit) (y.getLsbD bit))
    (elements : ∀ index < word.vectorClass.bytes / 2 ^ word.elementSize mnemonic,
      combine _ (word.element mnemonic registers 16 7 index)
        (word.element mnemonic registers 0 5 index) = word.element mnemonic after 12 22 index) :
    combine _ (word.vector registers 16 7) (word.vector registers 0 5) =
      word.vector after 12 22 := by
  apply BitVec.eq_of_getLsbD_eq
  intro bit inside
  have insideElement : bit % (8 * 2 ^ word.elementSize mnemonic) <
      8 * 2 ^ word.elementSize mnemonic :=
    Nat.mod_lt bit (Nat.mul_pos (by decide) (Nat.two_pow_pos _))
  have element := elements _ (div_elements_lt (elements_dvd_bytes word mnemonic) inside)
  rw [bits _ _ _ bit inside, getLsbD_vector word mnemonic _ _ _ inside,
    getLsbD_vector word mnemonic _ _ _ inside, getLsbD_vector word mnemonic _ _ _ inside,
    ← element, bits _ _ _ _ insideElement]

theorem integer?_vector {registers after : RegisterFile}
    (bitwise : mnemonic.isBitwise = true)
    (elements : ∀ index < word.vectorClass.bytes / 2 ^ word.elementSize mnemonic,
      mnemonic.integer? (word.flag 24) (word.element mnemonic registers 12 22 index)
        (word.element mnemonic registers 16 7 index)
        (word.element mnemonic registers 0 5 index) =
          some (word.element mnemonic after 12 22 index)) :
    mnemonic.integer? (word.flag 24) (word.vector registers 12 22)
      (word.vector registers 16 7) (word.vector registers 0 5) =
        some (word.vector after 12 22) := by
  cases mnemonic with
  | vand =>
      exact congrArg some (vector_of_elements word _ (fun _ x y => x &&& y) (· && ·)
        (fun _ x y bit _ => BitVec.getLsbD_and)
        fun index inside => Option.some.inj (elements index inside))
  | vorr =>
      exact congrArg some (vector_of_elements word _ (fun _ x y => x ||| y) (· || ·)
        (fun _ x y bit _ => BitVec.getLsbD_or)
        fun index inside => Option.some.inj (elements index inside))
  | veor =>
      exact congrArg some (vector_of_elements word _ (fun _ x y => x ^^^ y) (· ^^ ·)
        (fun _ x y bit _ => BitVec.getLsbD_xor)
        fun index inside => Option.some.inj (elements index inside))
  | _ => cases bitwise

end Lifting

open Guest (Address Row Word)

/-- A word that computes integers is lifted, and its code run on its own leaves in
every element of the destination the integer that the instruction makes of the
elements as they were before, and no other byte changed. Bitwise instructions
work on the whole registers. -/
theorem run_liftWord_integer [FloatArithmetic] (word : Word) (row : Row)
    (found : Guest.lookup? word = some row)
    (integer : word.computesIntegers row.descriptor.mnemonic = true) (address : Address)
    (name : String) (registers : RegisterFile) :
    (liftWord {} address word).result = .ok () ∧
    ∃ after,
      (Lane.CodeBuilder.append ({ name := name } : Lane.Function)
        (liftWord {} address word).code).run registers = ⟨after, .ok ()⟩ ∧
      (∀ index < word.vectorClass.bytes / 2 ^ word.elementSize row.descriptor.mnemonic,
        row.descriptor.mnemonic.integer? (word.flag 24)
          (word.element row.descriptor.mnemonic registers 12 22 index)
          (word.element row.descriptor.mnemonic registers 16 7 index)
          (word.element row.descriptor.mnemonic registers 0 5 index) =
            some (word.element row.descriptor.mnemonic after 12 22 index)) ∧
      (row.descriptor.mnemonic.isBitwise = true →
        row.descriptor.mnemonic.integer? (word.flag 24) (word.vector registers 12 22)
          (word.vector registers 16 7) (word.vector registers 0 5) =
            some (word.vector after 12 22)) ∧
      ∀ offset, (offset < word.vectorClass.offset (word.doubleNumber 12 22) ∨
          word.vectorClass.offset (word.doubleNumber 12 22) + word.vectorClass.bytes ≤ offset) →
        after.byte offset = registers.byte offset := by
  rcases Lifting.exists_plansInteger integer with ⟨template, reading, body, plans⟩
  have planned := plans.planned
  rw [← Guest.layout_of_lookup? found] at planned
  have lifted : (liftWord {} address word).code = _ ∧ (liftWord {} address word).result = _ :=
    liftWord_of_plan found (Settings.allows_default _) planned
  rcases lifted with ⟨code, result⟩
  rcases plans.reaches_emission registers with ⟨values, after, run, elements, spared⟩
  refine ⟨?_, after, ?_, elements, ?_, spared⟩
  · rw [result]
    exact plans.decoded.result _
  · rw [code]
    exact Lane.Function.run_append_empty run
  · intro bitwise
    exact Lifting.integer?_vector bitwise elements

/-- The word of `vabs.s8 d1, d1`. -/
private def absoluteBytes : Word := 0xf3b11301

/-- Bytes of register 1 are -128 and -1, and those of register 0 are 5. -/
private def negatives : RegisterFile :=
  RegisterFile.zero.setBank 0 0xff80ff80ff80ff800505050505050505

theorem run_liftWord_integer_absolute :
    (∃ row, Guest.lookup? absoluteBytes = some row ∧
      absoluteBytes.computesIntegers row.descriptor.mnemonic = true) ∧
    ∃ after,
      (Lane.CodeBuilder.append ({ name := "vabs" } : Lane.Function)
        (liftWord {} 0 absoluteBytes).code).run negatives = ⟨after, .ok ()⟩ ∧
      absoluteBytes.element .vabsV after 12 22 0 = 0x80 ∧
      absoluteBytes.element .vabsV after 12 22 1 = 1 ∧ after.byte 7 = 5 := by
  let row : Row := ⟨0xffb30b90, 0xf3b10300, ⟨.vabsV, .vectorPair⟩⟩
  have found : Guest.lookup? absoluteBytes = some row := by decide
  have integer : absoluteBytes.computesIntegers row.descriptor.mnemonic = true := by decide
  have result := run_liftWord_integer absoluteBytes row found integer 0 "vabs" negatives
  rcases result with ⟨_, after, run, elements, _, spared⟩
  have first := (elements 0 (by decide)).symm
  have second := (elements 1 (by decide)).symm
  refine ⟨⟨row, found, integer⟩, after, run, ?_, ?_, spared 7 (.inl (by decide))⟩
  · exact Option.some.inj (first.trans (by decide))
  · exact Option.some.inj (second.trans (by decide))

end LaneLift
