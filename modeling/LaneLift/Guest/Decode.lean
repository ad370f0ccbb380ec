import LaneLift.Guest.Immediate
import LaneLift.Guest.Operands

/-!
# Decoding

Decoding slices the fields of a layout out of a word. It checks nothing: field
values that the architecture calls undefined pass through.
-/

namespace LaneLift.Guest

namespace Word

/-- The field of `width` bits from bit `offset` on. -/
def field (word : Word) (offset width : Nat) : Nat :=
  (word.extractLsb' offset width).toNat

def flag (word : Word) (offset : Nat) : Bool :=
  word.getLsbD offset

/-- A `D` or `Q` register number: a bit at `extension` above four bits at `low`. -/
def doubleNumber (word : Word) (low extension : Nat) : Nat :=
  (word.extractLsb' extension 1 ++ word.extractLsb' low 4).toNat

/-- An `S` register number: four bits at `low` above a bit at `extension`. -/
def singleNumber (word : Word) (low extension : Nat) : Nat :=
  (word.extractLsb' low 4 ++ word.extractLsb' extension 1).toNat

/-- The class of vector registers that bit 6 selects. -/
def vectorClass (word : Word) : RegisterClass :=
  if word.flag 6 then .quad else .double

/-- A VFP size code of 3 is double precision. -/
def scalarClass (word : Word) : RegisterClass :=
  if word.field 8 2 = 3 then .double else .single

/-- A VFP register number, in the class that the size code selects. -/
def scalarNumber (word : Word) (low extension : Nat) : Nat :=
  if word.field 8 2 = 3 then word.doubleNumber low extension else word.singleNumber low extension

end Word

def Layout.decode (word : Word) : Layout → Operands
  | .bitfield => .bitfield {
      destination := word.field 12 4
      source := word.field 0 4
      msb := word.field 16 5
      lsb := word.field 7 5 }
  | .vectorPair => .vectorPair {
      destination := word.doubleNumber 12 22
      source := word.doubleNumber 0 5
      size := word.field 18 2
      quad := word.flag 6
      float := word.flag 10
      registers := word.vectorClass }
  | .vectorTriple => .vectorTriple {
      destination := word.doubleNumber 12 22
      left := word.doubleNumber 16 7
      right := word.doubleNumber 0 5
      size := word.field 20 2
      quad := word.flag 6
      unsigned := word.flag 24
      registers := word.vectorClass }
  | .scalarPair => .scalarPair {
      destination := word.scalarNumber 12 22
      source := word.scalarNumber 0 5
      size := word.field 8 2
      registers := word.scalarClass }
  | .scalarTriple => .scalarTriple {
      destination := word.scalarNumber 12 22
      left := word.scalarNumber 16 7
      right := word.scalarNumber 0 5
      size := word.field 8 2
      registers := word.scalarClass }
  | .vectorImmediate =>
      let op := word.field 5 1
      let cmode := word.field 8 4
      let imm8 :=
        (word.extractLsb' 24 1 ++ word.extractLsb' 16 3 ++ word.extractLsb' 0 4).toNat
      let expanded := expandImmediate cmode op imm8
      .vectorImmediate {
        destination := word.doubleNumber 12 22
        quad := word.flag 6
        op := op
        cmode := cmode
        imm8 := imm8
        immediate := expanded.element
        size := expanded.size
        registers := word.vectorClass }

def Descriptor.decode (descriptor : Descriptor) (address : Address) (word : Word) :
    Instruction :=
  ⟨descriptor.mnemonic, address, word, descriptor.layout.decode word⟩

theorem layout_decode (layout : Layout) (word : Word) : (layout.decode word).layout = layout := by
  cases layout <;> rfl

end LaneLift.Guest
