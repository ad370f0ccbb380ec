import LaneLift.Proofs.Guest.Decode
import LaneLift.Proofs.Guest.Table
import Mathlib.Data.List.Pairwise

/-!
# Words put together from operands

Decoding loses nothing and invents nothing. What a row does not fix in a word are the fields
of its layout, which have no bit in common. So a word is the value of its row with its
operands filled in, and any operands that agree with a row can be filled in and are decoded
again.
-/

namespace LaneLift.Guest

/-! ## Fields -/

structure Field where
  offset : Nat
  width : Nat
  deriving DecidableEq, Repr

namespace Field

def Covers (field : Field) (bit : Nat) : Prop :=
  field.offset ≤ bit ∧ bit < field.offset + field.width

instance (field : Field) (bit : Nat) : Decidable (field.Covers bit) :=
  inferInstanceAs (Decidable (_ ∧ _))

def Apart (left right : Field) : Prop :=
  left.offset + left.width ≤ right.offset ∨ right.offset + right.width ≤ left.offset

instance (left right : Field) : Decidable (left.Apart right) :=
  inferInstanceAs (Decidable (_ ∨ _))

theorem Apart.not_covers {left right : Field} (apart : left.Apart right) {bit : Nat}
    (covered : left.Covers bit) : ¬right.Covers bit := by
  simp only [Apart, Covers] at *
  omega

theorem Apart.symm {left right : Field} (apart : left.Apart right) : right.Apart left :=
  Or.symm apart

end Field

namespace Row

/-- A row that matches its own value matches the words that have the bits which it fixes. -/
theorem matches_iff {row : Row} (own : row.matches row.value = true) {word : Word} :
    row.matches word = true ↔
      ∀ bit < 32, row.mask.getLsbD bit = true → word.getLsbD bit = row.value.getLsbD bit := by
  constructor
  · intro isMatch bit _ fixed
    exact getLsbD_of_matches isMatch fixed
  · intro same
    have isValue : row.value &&& row.mask = row.value := by simpa [Row.matches] using own
    rw [Row.matches, beq_iff_eq]
    apply BitVec.eq_of_getLsbD_eq
    intro bit inside
    rw [← isValue, BitVec.getLsbD_and, BitVec.getLsbD_and]
    cases fixed : row.mask.getLsbD bit with
    | false => rw [Bool.and_false, Bool.and_false]
    | true => rw [same bit inside fixed]

end Row

structure Filling where
  field : Field
  bits : BitVec field.width
  deriving DecidableEq, Repr

namespace Filling

def number (offset width value : Nat) : Filling := ⟨⟨offset, width⟩, .ofNat width value⟩

def flag (offset : Nat) (set : Bool) : Filling := ⟨⟨offset, 1⟩, .ofBool set⟩

def double (low extension register : Nat) : List Filling :=
  [number low 4 register, number extension 1 (register / 16)]

def single (low extension register : Nat) : List Filling :=
  [number low 4 (register / 2), number extension 1 register]

def scalar (size low extension register : Nat) : List Filling :=
  if size = 3 then double low extension register else single low extension register

def byte (value : Nat) : List Filling :=
  [number 24 1 (value / 128), number 16 3 (value / 16), number 0 4 value]

def Agrees (filling : Filling) (row : Row) : Prop :=
  filling.bits &&& row.mask.extractLsb' filling.field.offset filling.field.width =
    row.value.extractLsb' filling.field.offset filling.field.width

instance (filling : Filling) (row : Row) : Decidable (filling.Agrees row) :=
  inferInstanceAs (Decidable (_ = _))

end Filling

namespace Word

def setField (word : Word) {width : Nat} (offset : Nat) (value : BitVec width) : Word :=
  word &&& ~~~((BitVec.allOnes width).setWidth 32 <<< offset) |||
    value.setWidth 32 <<< offset

theorem getLsbD_setField (word : Word) {width : Nat} (offset : Nat) (value : BitVec width)
    {bit : Nat} (inside : bit < 32) :
    (word.setField offset value).getLsbD bit =
      if offset ≤ bit ∧ bit < offset + width then value.getLsbD (bit - offset)
      else word.getLsbD bit := by
  by_cases low : bit < offset
  · have outside : ¬offset ≤ bit := by omega
    simp [setField, inside, low, outside]
  · by_cases high : bit < offset + width
    · have covered : bit - offset < width := by omega
      have reached : offset ≤ bit := by omega
      simp [setField, inside, low, high, covered, reached]
    · have uncovered : ¬bit - offset < width := by omega
      have absent : value.getLsbD (bit - offset) = false :=
        BitVec.getLsbD_of_ge value _ (by omega)
      simp [setField, inside, low, high, uncovered, absent]

def fill (word : Word) (fillings : List Filling) : Word :=
  fillings.foldl (fun word filling => word.setField filling.field.offset filling.bits) word

def Holds (word : Word) (fillings : List Filling) : Prop :=
  ∀ filling ∈ fillings,
    word.extractLsb' filling.field.offset filling.field.width = filling.bits

variable {word base : Word} {fillings : List Filling}

theorem fill_cons (word : Word) (filling : Filling) (rest : List Filling) :
    word.fill (filling :: rest) = (word.setField filling.field.offset filling.bits).fill rest :=
  rfl

/-- A bit is what the fillings that cover it say, or as before if none does. -/
theorem getLsbD_fill {bit : Nat} (inside : bit < 32) {value : Bool} :
    ∀ (fillings : List Filling) (base : Word),
      (∀ filling ∈ fillings, filling.field.Covers bit →
        filling.bits.getLsbD (bit - filling.field.offset) = value) →
      base.getLsbD bit = value ∨ (∃ filling ∈ fillings, filling.field.Covers bit) →
        (base.fill fillings).getLsbD bit = value
  | [], base, _, origin => by
      rcases origin with before | ⟨filling, member, _⟩
      · exact before
      · cases member
  | filling :: rest, base, filled, origin => by
      rcases List.forall_mem_cons.mp filled with ⟨first, others⟩
      rw [fill_cons]
      apply getLsbD_fill inside rest _ others
      rw [getLsbD_setField base _ _ inside]
      by_cases covered :
          filling.field.offset ≤ bit ∧ bit < filling.field.offset + filling.field.width
      · left
        rw [if_pos covered]
        exact first covered
      · rw [if_neg covered]
        rcases origin with before | ⟨other, member, covers⟩
        · exact .inl before
        · rcases List.mem_cons.mp member with rfl | later
          · exact absurd covers covered
          · exact .inr ⟨other, later, covers⟩

theorem holds_fill (base : Word) (fit : ∀ filling ∈ fillings, filling.field.offset +
      filling.field.width ≤ 32)
    (apart : (fillings.map Filling.field).Pairwise Field.Apart) :
    (base.fill fillings).Holds fillings := by
  intro filling member
  apply BitVec.eq_of_getLsbD_eq
  intro bit inside
  have fits := fit filling member
  have covered : filling.field.Covers (filling.field.offset + bit) := by
    simp only [Field.Covers]
    omega
  have symmetric : Std.Symm fun left right : Filling => left.field.Apart right.field :=
    ⟨fun _ _ => Field.Apart.symm⟩
  rw [BitVec.getLsbD_extractLsb', decide_eq_true inside, Bool.true_and]
  apply getLsbD_fill (by omega)
  · intro other otherMember otherCovers
    by_cases same : filling = other
    · rw [← same, Nat.add_sub_cancel_left]
    · have disjoint : filling.field.Apart other.field :=
        (List.pairwise_map.mp apart).forall member otherMember same
      exact absurd otherCovers (disjoint.not_covers covered)
  · exact .inr ⟨filling, member, covered⟩

theorem fill_eq_of_holds (holds : word.Holds fillings)
    (others : ∀ bit < 32, base.getLsbD bit = word.getLsbD bit ∨
      ∃ filling ∈ fillings, filling.field.Covers bit) :
    base.fill fillings = word := by
  apply BitVec.eq_of_getLsbD_eq
  intro bit inside
  apply getLsbD_fill inside fillings base _ (others bit inside)
  intro filling member covered
  simp only [Field.Covers] at covered
  rw [← holds filling member, BitVec.getLsbD_extractLsb', decide_eq_true (by omega),
    Bool.true_and, Nat.add_sub_cancel' covered.1]

theorem matches_fill {row : Row} (own : row.matches row.value = true)
    (agree : ∀ filling ∈ fillings, filling.Agrees row) :
    row.matches (row.value.fill fillings) = true := by
  rw [Row.matches_iff own]
  intro bit inside fixed
  apply getLsbD_fill inside fillings row.value _ (.inl rfl)
  intro filling member covered
  simp only [Field.Covers] at covered
  have sameBits := congrArg (·.getLsbD (bit - filling.field.offset)) (agree filling member)
  simp only [BitVec.getLsbD_and, BitVec.getLsbD_extractLsb', Nat.add_sub_cancel' covered.1,
    fixed, show bit - filling.field.offset < filling.field.width by omega, decide_true,
    Bool.true_and, Bool.and_true] at sameBits
  exact sameBits

end Word

/-! ## What words hold -/

namespace Word

variable {word : Word} {offset width low extension : Nat}

theorem holds_nil : word.Holds [] :=
  List.forall_mem_nil _

theorem holds_cons {filling : Filling} {rest : List Filling} :
    word.Holds (filling :: rest) ↔
      word.extractLsb' filling.field.offset filling.field.width = filling.bits ∧ word.Holds rest :=
  List.forall_mem_cons

theorem holds_append {left right : List Filling} :
    word.Holds (left ++ right) ↔ word.Holds left ∧ word.Holds right :=
  List.forall_mem_append

theorem holds_number_cons {value : Nat} (narrow : value < 2 ^ width) {rest : List Filling} :
    word.Holds (.number offset width value :: rest) ↔
      word.field offset width = value ∧ word.Holds rest := by
  have held : word.extractLsb' offset width = BitVec.ofNat width value ↔
      word.field offset width = value := by
    rw [← BitVec.toNat_inj, BitVec.toNat_ofNat, Nat.mod_eq_of_lt narrow, field]
  exact holds_cons.trans (and_congr_left' held)

theorem holds_flag_cons {set : Bool} {rest : List Filling} :
    word.Holds (.flag offset set :: rest) ↔ word.flag offset = set ∧ word.Holds rest := by
  have bits : ∀ (x : BitVec 1) (set : Bool), x = .ofBool set ↔ x.getLsbD 0 = set := by decide
  have held : word.extractLsb' offset 1 = .ofBool set ↔ word.flag offset = set := by
    rw [bits, BitVec.getLsbD_extractLsb', flag]
    rfl
  exact holds_cons.trans (and_congr_left' held)

theorem holds_double {register : Nat} (narrow : register < 2 ^ 5) :
    word.Holds (Filling.double low extension register) ↔
      word.doubleNumber low extension = register := by
  have bits : ∀ (upper : BitVec 1) (lower : BitVec 4), ∀ register < 2 ^ 5,
      (lower = .ofNat 4 register ∧ upper = .ofNat 1 (register / 16)) ↔
        (upper ++ lower).toNat = register := by
    decide +kernel
  rw [doubleNumber, ← bits _ _ register narrow]
  simp only [Filling.double, Filling.number, holds_cons, holds_nil, and_true]

theorem holds_single {register : Nat} (narrow : register < 2 ^ 5) :
    word.Holds (Filling.single low extension register) ↔
      word.singleNumber low extension = register := by
  have bits : ∀ (upper : BitVec 4) (lower : BitVec 1), ∀ register < 2 ^ 5,
      (upper = .ofNat 4 (register / 2) ∧ lower = .ofNat 1 register) ↔
        (upper ++ lower).toNat = register := by
    decide +kernel
  rw [singleNumber, ← bits _ _ register narrow]
  simp only [Filling.single, Filling.number, holds_cons, holds_nil, and_true]

theorem holds_scalar {register : Nat} (narrow : register < 2 ^ 5) :
    word.Holds (Filling.scalar (word.field 8 2) low extension register) ↔
      word.scalarNumber low extension = register := by
  rw [Filling.scalar, scalarNumber]
  split
  · exact holds_double narrow
  · exact holds_single narrow

theorem holds_byte {value : Nat} (narrow : value < 2 ^ 8) :
    word.Holds (Filling.byte value) ↔
      (word.extractLsb' 24 1 ++ word.extractLsb' 16 3 ++ word.extractLsb' 0 4).toNat = value := by
  have apart : ∀ (highest : BitVec 1) (upper : BitVec 3) (lower : BitVec 4),
      highest = .ofNat 1 ((highest ++ upper ++ lower).toNat / 128) ∧
        upper = .ofNat 3 ((highest ++ upper ++ lower).toNat / 16) ∧
        lower = .ofNat 4 (highest ++ upper ++ lower).toNat := by
    decide +kernel
  have together : ∀ value < 2 ^ 8, (BitVec.ofNat 1 (value / 128) ++ BitVec.ofNat 3 (value / 16) ++
      BitVec.ofNat 4 value).toNat = value := by
    decide +kernel
  simp only [Filling.byte, Filling.number, holds_cons, holds_nil, and_true]
  constructor
  · rintro ⟨highest, upper, lower⟩
    rw [highest, upper, lower]
    exact together value narrow
  · rintro rfl
    exact apart _ _ _

end Word

/-! ## Operands -/

def Layout.fields : Layout → List Field
  | .bitfield => [⟨12, 4⟩, ⟨0, 4⟩, ⟨16, 5⟩, ⟨7, 5⟩]
  | .vectorPair => [⟨12, 4⟩, ⟨22, 1⟩, ⟨0, 4⟩, ⟨5, 1⟩, ⟨18, 2⟩, ⟨6, 1⟩, ⟨10, 1⟩]
  | .vectorTriple =>
      [⟨12, 4⟩, ⟨22, 1⟩, ⟨16, 4⟩, ⟨7, 1⟩, ⟨0, 4⟩, ⟨5, 1⟩, ⟨20, 2⟩, ⟨6, 1⟩, ⟨24, 1⟩]
  | .scalarPair => [⟨12, 4⟩, ⟨22, 1⟩, ⟨0, 4⟩, ⟨5, 1⟩, ⟨8, 2⟩]
  | .scalarTriple => [⟨12, 4⟩, ⟨22, 1⟩, ⟨16, 4⟩, ⟨7, 1⟩, ⟨0, 4⟩, ⟨5, 1⟩, ⟨8, 2⟩]
  | .vectorImmediate =>
      [⟨12, 4⟩, ⟨22, 1⟩, ⟨6, 1⟩, ⟨5, 1⟩, ⟨8, 4⟩, ⟨24, 1⟩, ⟨16, 3⟩, ⟨0, 4⟩]

theorem Layout.fields_fit (layout : Layout) :
    ∀ field ∈ layout.fields, field.offset + field.width ≤ 32 := by
  cases layout <;> decide

theorem Layout.fields_apart (layout : Layout) : layout.fields.Pairwise Field.Apart := by
  cases layout <;> decide

namespace Operands

def fillings : Operands → List Filling
  | .bitfield operands =>
      [.number 12 4 operands.destination, .number 0 4 operands.source,
        .number 16 5 operands.msb, .number 7 5 operands.lsb]
  | .vectorPair operands =>
      Filling.double 12 22 operands.destination ++ Filling.double 0 5 operands.source ++
        [.number 18 2 operands.size, .flag 6 operands.quad, .flag 10 operands.float]
  | .vectorTriple operands =>
      Filling.double 12 22 operands.destination ++ Filling.double 16 7 operands.left ++
        Filling.double 0 5 operands.right ++
        [.number 20 2 operands.size, .flag 6 operands.quad, .flag 24 operands.unsigned]
  | .scalarPair operands =>
      Filling.scalar operands.size 12 22 operands.destination ++
        Filling.scalar operands.size 0 5 operands.source ++ [.number 8 2 operands.size]
  | .scalarTriple operands =>
      Filling.scalar operands.size 12 22 operands.destination ++
        Filling.scalar operands.size 16 7 operands.left ++
        Filling.scalar operands.size 0 5 operands.right ++ [.number 8 2 operands.size]
  | .vectorImmediate operands =>
      Filling.double 12 22 operands.destination ++
        [.flag 6 operands.quad, .number 5 1 operands.op, .number 8 4 operands.cmode] ++
        Filling.byte operands.imm8

/-- Are operands within the widths of their fields? The class of registers, and what an
immediate expands to, follow from other operands. -/
def Encodable : Operands → Prop
  | .bitfield { destination, source, msb, lsb } =>
      destination < 2 ^ 4 ∧ source < 2 ^ 4 ∧ msb < 2 ^ 5 ∧ lsb < 2 ^ 5
  | .vectorPair { destination, source, size, quad, registers, .. } =>
      destination < 2 ^ 5 ∧ source < 2 ^ 5 ∧ size < 2 ^ 2 ∧
        registers = if quad then .quad else .double
  | .vectorTriple { destination, left, right, size, quad, registers, .. } =>
      destination < 2 ^ 5 ∧ left < 2 ^ 5 ∧ right < 2 ^ 5 ∧ size < 2 ^ 2 ∧
        registers = if quad then .quad else .double
  | .scalarPair { destination, source, size, registers } =>
      destination < 2 ^ 5 ∧ source < 2 ^ 5 ∧ size < 2 ^ 2 ∧
        registers = if size = 3 then .double else .single
  | .scalarTriple { destination, left, right, size, registers } =>
      destination < 2 ^ 5 ∧ left < 2 ^ 5 ∧ right < 2 ^ 5 ∧ size < 2 ^ 2 ∧
        registers = if size = 3 then .double else .single
  | .vectorImmediate { destination, quad, op, cmode, imm8, immediate, size, registers } =>
      destination < 2 ^ 5 ∧ op < 2 ^ 1 ∧ cmode < 2 ^ 4 ∧ imm8 < 2 ^ 8 ∧
        immediate = (expandImmediate cmode op imm8).element ∧
        size = (expandImmediate cmode op imm8).size ∧
        registers = if quad then .quad else .double

instance : (operands : Operands) → Decidable operands.Encodable
  | .bitfield ⟨_, _, _, _⟩ => inferInstanceAs (Decidable (_ ∧ _))
  | .vectorPair ⟨_, _, _, _, _, _⟩ => inferInstanceAs (Decidable (_ ∧ _))
  | .vectorTriple ⟨_, _, _, _, _, _, _⟩ => inferInstanceAs (Decidable (_ ∧ _))
  | .scalarPair ⟨_, _, _, _⟩ => inferInstanceAs (Decidable (_ ∧ _))
  | .scalarTriple ⟨_, _, _, _, _⟩ => inferInstanceAs (Decidable (_ ∧ _))
  | .vectorImmediate ⟨_, _, _, _, _, _, _, _⟩ => inferInstanceAs (Decidable (_ ∧ _))

theorem field_fillings (operands : Operands) :
    operands.fillings.map Filling.field = operands.layout.fields := by
  cases operands with
  | scalarPair operands | scalarTriple operands =>
      simp only [fillings, Filling.scalar]
      split <;> rfl
  | _ => rfl

theorem mem_fields_iff (operands : Operands) (field : Field) :
    field ∈ operands.layout.fields ↔ ∃ filling ∈ operands.fillings, filling.field = field := by
  rw [← operands.field_fillings, List.mem_map]

theorem holds_fill (operands : Operands) (base : Word) :
    (base.fill operands.fillings).Holds operands.fillings := by
  apply Word.holds_fill
  · intro filling member
    exact operands.layout.fields_fit _ ((operands.mem_fields_iff _).mpr ⟨filling, member, rfl⟩)
  · rw [operands.field_fillings]
    exact operands.layout.fields_apart

theorem encodable_decode (layout : Layout) (word : Word) : (layout.decode word).Encodable := by
  cases layout with
  | bitfield => exact ⟨word.field_lt 12 4, word.field_lt 0 4, word.field_lt 16 5, word.field_lt 7 5⟩
  | vectorPair =>
      exact ⟨word.doubleNumber_lt 12 22, word.doubleNumber_lt 0 5, word.field_lt 18 2, rfl⟩
  | vectorTriple =>
      exact ⟨word.doubleNumber_lt 12 22, word.doubleNumber_lt 16 7, word.doubleNumber_lt 0 5,
        word.field_lt 20 2, rfl⟩
  | scalarPair =>
      exact ⟨word.scalarNumber_lt 12 22, word.scalarNumber_lt 0 5, word.field_lt 8 2, rfl⟩
  | scalarTriple =>
      exact ⟨word.scalarNumber_lt 12 22, word.scalarNumber_lt 16 7, word.scalarNumber_lt 0 5,
        word.field_lt 8 2, rfl⟩
  | vectorImmediate =>
      exact ⟨word.doubleNumber_lt 12 22, word.field_lt 5 1, word.field_lt 8 4,
        BitVec.isLt (_ : BitVec 8), rfl, rfl, rfl⟩

theorem holds_fillings_iff {operands : Operands} (encodable : operands.Encodable) {word : Word} :
    word.Holds operands.fillings ↔ operands.layout.decode word = operands := by
  cases operands with
  | bitfield operands =>
      rcases operands with ⟨destination, source, msb, lsb⟩
      rcases encodable with ⟨destinationFits, sourceFits, msbFits, lsbFits⟩
      simp only [fillings, Word.holds_nil, Word.holds_number_cons destinationFits,
        Word.holds_number_cons sourceFits, Word.holds_number_cons msbFits,
        Word.holds_number_cons lsbFits]
      constructor
      · rintro ⟨rfl, rfl, rfl, rfl, _⟩
        rfl
      · rintro ⟨⟩
        exact ⟨rfl, rfl, rfl, rfl, trivial⟩
  | vectorPair operands =>
      rcases operands with ⟨destination, source, size, quad, float, registers⟩
      rcases encodable with ⟨destinationFits, sourceFits, sizeFits, rfl⟩
      simp only [fillings, Word.holds_append, Word.holds_nil, Word.holds_double destinationFits,
        Word.holds_double sourceFits, Word.holds_number_cons sizeFits, Word.holds_flag_cons]
      constructor
      · rintro ⟨⟨rfl, rfl⟩, rfl, rfl, rfl, _⟩
        rfl
      · rintro ⟨⟩
        exact ⟨⟨rfl, rfl⟩, rfl, rfl, rfl, trivial⟩
  | vectorTriple operands =>
      rcases operands with ⟨destination, left, right, size, quad, unsigned, registers⟩
      rcases encodable with ⟨destinationFits, leftFits, rightFits, sizeFits, rfl⟩
      simp only [fillings, Word.holds_append, Word.holds_nil, Word.holds_double destinationFits,
        Word.holds_double leftFits, Word.holds_double rightFits,
        Word.holds_number_cons sizeFits, Word.holds_flag_cons]
      constructor
      · rintro ⟨⟨⟨rfl, rfl⟩, rfl⟩, rfl, rfl, rfl, _⟩
        rfl
      · rintro ⟨⟩
        exact ⟨⟨⟨rfl, rfl⟩, rfl⟩, rfl, rfl, rfl, trivial⟩
  | scalarPair operands =>
      rcases operands with ⟨destination, source, size, registers⟩
      rcases encodable with ⟨destinationFits, sourceFits, sizeFits, rfl⟩
      simp only [fillings, Word.holds_append, Word.holds_nil, Word.holds_number_cons sizeFits]
      constructor
      · rintro ⟨⟨destinationHeld, sourceHeld⟩, rfl, _⟩
        cases (Word.holds_scalar destinationFits).mp destinationHeld
        cases (Word.holds_scalar sourceFits).mp sourceHeld
        rfl
      · rintro ⟨⟩
        exact ⟨⟨(Word.holds_scalar destinationFits).mpr rfl,
          (Word.holds_scalar sourceFits).mpr rfl⟩, rfl, trivial⟩
  | scalarTriple operands =>
      rcases operands with ⟨destination, left, right, size, registers⟩
      rcases encodable with ⟨destinationFits, leftFits, rightFits, sizeFits, rfl⟩
      simp only [fillings, Word.holds_append, Word.holds_nil, Word.holds_number_cons sizeFits]
      constructor
      · rintro ⟨⟨⟨destinationHeld, leftHeld⟩, rightHeld⟩, rfl, _⟩
        cases (Word.holds_scalar destinationFits).mp destinationHeld
        cases (Word.holds_scalar leftFits).mp leftHeld
        cases (Word.holds_scalar rightFits).mp rightHeld
        rfl
      · rintro ⟨⟩
        exact ⟨⟨⟨(Word.holds_scalar destinationFits).mpr rfl,
          (Word.holds_scalar leftFits).mpr rfl⟩, (Word.holds_scalar rightFits).mpr rfl⟩,
          rfl, trivial⟩
  | vectorImmediate operands =>
      rcases operands with ⟨destination, quad, op, cmode, imm8, immediate, size, registers⟩
      rcases encodable with ⟨destinationFits, opFits, cmodeFits, imm8Fits, rfl, rfl, rfl⟩
      simp only [fillings, Word.holds_append, Word.holds_nil, Word.holds_double destinationFits,
        Word.holds_flag_cons, Word.holds_number_cons opFits, Word.holds_number_cons cmodeFits,
        Word.holds_byte imm8Fits]
      constructor
      · rintro ⟨⟨rfl, rfl, rfl, rfl, _⟩, rfl⟩
        rfl
      · rintro ⟨⟩
        exact ⟨⟨rfl, rfl, rfl, rfl, trivial⟩, rfl⟩

end Operands

/-! ## Rows -/

theorem matches_value_of_mem_table : ∀ row ∈ table, row.matches row.value = true := by
  decide

theorem fixed_or_covered_of_mem_table : ∀ row ∈ table, ∀ bit < 32,
    row.mask.getLsbD bit = true ∨ ∃ field ∈ row.descriptor.layout.fields, field.Covers bit := by
  decide +kernel

theorem eq_of_mnemonic_eq_of_mem_table : ∀ left ∈ table, ∀ right ∈ table,
    left.descriptor.mnemonic = right.descriptor.mnemonic → left = right := by
  decide +kernel

namespace Row

def clearing : Row := ⟨0xffe0007f, 0xe7c0001f, ⟨.bfc, .bitfield⟩⟩

def inserting : Row := ⟨0xffe00070, 0xe7c00010, ⟨.bfi, .bitfield⟩⟩

theorem matches_clearing_iff {word : Word} : clearing.matches word = true ↔
    inserting.matches word = true ∧ word.field 0 4 = 15 := by
  have sourceBits : word.field 0 4 = 15 ↔ ∀ bit < 4, word.getLsbD bit = true := by
    have bits : ∀ x : BitVec 4, x.toNat = 15 ↔ ∀ bit < 4, x.getLsbD bit = true := by decide
    rw [Word.field, bits]
    apply forall₂_congr
    intro bit low
    rw [BitVec.getLsbD_extractLsb', decide_eq_true low, Bool.true_and, Nat.zero_add]
  -- Clearing fixes what inserting does and, as ones, the bits of the source.
  have fixed : ∀ bit < 32, clearing.mask.getLsbD bit = true ↔
      inserting.mask.getLsbD bit = true ∨ bit < 4 := by
    decide
  have values : ∀ bit < 32, inserting.mask.getLsbD bit = true →
      clearing.value.getLsbD bit = inserting.value.getLsbD bit := by
    decide
  have ones : ∀ bit < 4, clearing.value.getLsbD bit = true := by decide
  rw [matches_iff (by decide), matches_iff (by decide), sourceBits]
  constructor
  · intro same
    constructor
    · intro bit inside isFixed
      rw [← values bit inside isFixed]
      exact same bit inside ((fixed bit inside).mpr (.inl isFixed))
    · intro bit low
      rw [← ones bit low]
      exact same bit (by omega) ((fixed bit (by omega)).mpr (.inr low))
  · rintro ⟨same, set⟩ bit inside isFixed
    rcases (fixed bit inside).mp isFixed with other | low
    · rw [values bit inside other]
      exact same bit inside other
    · rw [ones bit low]
      exact set bit low

/-- The row that is found for a word put together from operands that agree with a row: the
one for clearing a bitfield if one is inserted from register 15. -/
def foundWith (row : Row) : Operands → Row
  | .bitfield operands =>
      if row = inserting ∧ operands.source = 15 then clearing else row
  | _ => row

theorem foundWith_of_ne {row : Row} (other : row ≠ inserting) (operands : Operands) :
    row.foundWith operands = row := by
  cases operands with
  | bitfield operands => exact if_neg fun both => other both.1
  | _ => rfl

theorem layout_foundWith (row : Row) (operands : Operands) :
    (row.foundWith operands).descriptor.layout = row.descriptor.layout := by
  cases operands with
  | bitfield operands =>
      rw [foundWith]
      split
      · rename_i both
        rw [both.1]
        rfl
      · rfl
  | _ => rfl

theorem bitfield_cases_of_mem_table : ∀ row ∈ table,
    row.descriptor.mnemonic.isBitfield = false ∨ row = clearing ∨ row = inserting := by
  decide

end Row

theorem table_eq_cons_cons : ∃ rest, table = .clearing :: .inserting :: rest :=
  ⟨_, rfl⟩

theorem lookup?_of_matches_clearing {word : Word} (isMatch : Row.clearing.matches word = true) :
    lookup? word = some .clearing := by
  rcases table_eq_cons_cons with ⟨rest, rows⟩
  rw [lookup?, firstMatch?, rows, List.find?_cons_of_pos]
  exact isMatch

theorem lookup?_of_matches_inserting {word : Word} (isMatch : Row.inserting.matches word = true) :
    lookup? word = some (if word.field 0 4 = 15 then .clearing else .inserting) := by
  split
  · rename_i source
    exact lookup?_of_matches_clearing (Row.matches_clearing_iff.mpr ⟨isMatch, source⟩)
  · rename_i source
    have unmatched : ¬Row.clearing.matches word = true :=
      fun clears => source (Row.matches_clearing_iff.mp clears).2
    rcases table_eq_cons_cons with ⟨rest, rows⟩
    rw [lookup?, firstMatch?, rows, List.find?_cons_of_neg, List.find?_cons_of_pos]
    · exact isMatch
    · exact unmatched

/-! ## There and back -/

theorem fill_decode {word : Word} {row : Row} (found : lookup? word = some row) :
    row.value.fill (row.descriptor.layout.decode word).fillings = word := by
  rcases mem_table_of_lookup? found with ⟨member, isMatch⟩
  have holds : word.Holds (row.descriptor.layout.decode word).fillings := by
    rw [Operands.holds_fillings_iff (Operands.encodable_decode _ word), layout_decode]
  apply Word.fill_eq_of_holds holds
  intro bit inside
  rcases fixed_or_covered_of_mem_table row member bit inside with fixed | ⟨field, isField, covers⟩
  · exact .inl (Row.getLsbD_of_matches isMatch fixed).symm
  · rw [← layout_decode row.descriptor.layout word, Operands.mem_fields_iff] at isField
    rcases isField with ⟨filling, filled, rfl⟩
    exact .inr ⟨filling, filled, covers⟩

section Assembled

variable {row : Row} {operands : Operands}

theorem decode_fill (encodable : operands.Encodable) (base : Word) :
    operands.layout.decode (base.fill operands.fillings) = operands :=
  (Operands.holds_fillings_iff encodable).mp (operands.holds_fill base)

theorem lookup?_fill (member : row ∈ table) (layout : operands.layout = row.descriptor.layout)
    (encodable : operands.Encodable) (agree : ∀ filling ∈ operands.fillings, filling.Agrees row) :
    lookup? (row.value.fill operands.fillings) = some (row.foundWith operands) := by
  have isMatch : row.matches (row.value.fill operands.fillings) = true :=
    Word.matches_fill (matches_value_of_mem_table row member) agree
  -- Only the two rows on bitfields overlap.
  rcases Row.bitfield_cases_of_mem_table row member with other | rfl | rfl
  · have different : row ≠ .inserting := by
      rintro rfl
      cases other
    rw [Row.foundWith_of_ne different]
    exact lookup?_of_matches member other isMatch
  · rw [Row.foundWith_of_ne (by decide)]
    exact lookup?_of_matches_clearing isMatch
  · cases operands with
    | bitfield field =>
        have source : (Row.inserting.value.fill (Operands.bitfield field).fillings).field 0 4 =
            field.source :=
          congrArg Bitfield.source
            (Operands.bitfield.inj (decode_fill encodable Row.inserting.value))
        rw [lookup?_of_matches_inserting isMatch, Row.foundWith, source]
        simp only [true_and]
    | _ => cases layout

end Assembled

/-- Decoding loses nothing and is undone by filling in. A word for which a row is found is the
value of the row with the decoded operands filled in, so it is the only one with its mnemonic
and operands. Operands within their widths that agree with what a row fixes can be filled in
its value; the row is found for that word, and the word is decoded to these operands. -/
theorem decode_undone_by_fill :
    (∀ word row address, lookup? word = some row →
      row.value.fill (row.descriptor.decode address word).operands.fillings = word) ∧
    (∀ left right leftRow rightRow leftAddress rightAddress,
      lookup? left = some leftRow → lookup? right = some rightRow →
      (leftRow.descriptor.decode leftAddress left).mnemonic =
        (rightRow.descriptor.decode rightAddress right).mnemonic →
      (leftRow.descriptor.decode leftAddress left).operands =
        (rightRow.descriptor.decode rightAddress right).operands →
      left = right) ∧
    ∀ row ∈ table, ∀ operands : Operands, operands.layout = row.descriptor.layout →
      operands.Encodable → (∀ filling ∈ operands.fillings, filling.Agrees row) →
      ∀ address,
        lookup? (row.value.fill operands.fillings) = some (row.foundWith operands) ∧
        (row.foundWith operands).descriptor.decode address (row.value.fill operands.fillings) =
          ⟨(row.foundWith operands).descriptor.mnemonic, address,
            row.value.fill operands.fillings, operands⟩ := by
  refine ⟨fun word row _ found => fill_decode found, ?_, ?_⟩
  · intro left right leftRow rightRow _ _ foundLeft foundRight sameMnemonic sameOperands
    have sameRow : leftRow = rightRow :=
      eq_of_mnemonic_eq_of_mem_table leftRow (mem_table_of_lookup? foundLeft).1 rightRow
        (mem_table_of_lookup? foundRight).1 sameMnemonic
    subst sameRow
    calc left = leftRow.value.fill (leftRow.descriptor.layout.decode left).fillings :=
          (fill_decode foundLeft).symm
      _ = leftRow.value.fill (leftRow.descriptor.layout.decode right).fillings :=
          congrArg (fun operands : Operands => leftRow.value.fill operands.fillings) sameOperands
      _ = right := fill_decode foundRight
  · intro row member operands layout encodable agree address
    refine ⟨lookup?_fill member layout encodable agree, ?_⟩
    rw [Descriptor.decode, Row.layout_foundWith, ← layout, decode_fill encodable]

/-- Inserting a bitfield from register 15 is clearing it. -/
theorem decode_fill_of_inserting_from_fifteen :
    lookup? (Row.inserting.value.fill (Operands.bitfield ⟨3, 15, 20, 4⟩).fillings) =
        some .clearing ∧
      Row.clearing.descriptor.decode 0x1000
          (Row.inserting.value.fill (Operands.bitfield ⟨3, 15, 20, 4⟩).fillings) =
        ⟨.bfc, 0x1000, 0xe7d4321f, .bitfield ⟨3, 15, 20, 4⟩⟩ :=
  decode_undone_by_fill.2.2 .inserting (by decide) (.bitfield ⟨3, 15, 20, 4⟩) rfl (by decide)
    (by decide) 0x1000

end LaneLift.Guest
