import LaneLift.Proofs.Guest.Decode

/-!
# Decoding in machine arithmetic

Decoding can be done in words of the machine, with shifts by less than the width and
subtractions that do not wrap around. It stays in these ranges whatever the word, and
yields the operands.
-/

namespace LaneLift

/-! ## Operations with a range -/

def shiftLeft? {width : Nat} (x : BitVec width) (amount : Nat) : Option (BitVec width) :=
  if amount < width then some (x <<< amount) else none

def shiftRight? {width : Nat} (x : BitVec width) (amount : Nat) : Option (BitVec width) :=
  if amount < width then some (x >>> amount) else none

def subtract? {width : Nat} (x y : BitVec width) : Option (BitVec width) :=
  if y.toNat ≤ x.toNat then some (x - y) else none

section Ranges

variable {width : Nat} (x : BitVec width)

theorem shiftLeft?_eq {amount : Nat} (inside : amount < width) :
    shiftLeft? x amount = some (x <<< amount) :=
  if_pos inside

theorem shiftRight?_eq {amount : Nat} (inside : amount < width) :
    shiftRight? x amount = some (x >>> amount) :=
  if_pos inside

theorem subtract?_eq {y : BitVec width} (inside : y.toNat ≤ x.toNat) :
    subtract? x y = some (x - y) :=
  if_pos inside

end Ranges

namespace Guest

/-! ## Fields -/

namespace Word

/-- A field, as it is cut out: shifted down, then masked with one less than a power of
two. -/
def field? (word : Word) (offset width : Nat) : Option (BitVec 32) := do
  let shifted ← shiftRight? word offset
  let mask ← subtract? (← shiftLeft? 1#32 width) 1#32
  some (shifted &&& mask)

variable (word : Word)

theorem field?_eq {offset width : Nat} (starts : offset < 32) (narrow : width < 32) :
    word.field? offset width = some ((word.extractLsb' offset width).setWidth 32) := by
  have positive : 0 < 2 ^ width := Nat.two_pow_pos width
  have small : 2 ^ width < 2 ^ 32 := Nat.pow_lt_pow_right (by decide) narrow
  have power : (1#32 <<< width).toNat = 2 ^ width := by
    rw [BitVec.toNat_shiftLeft, Nat.shiftLeft_eq, BitVec.toNat_ofNat, Nat.one_mod, Nat.one_mul]
    exact Nat.mod_eq_of_lt small
  have one : (1#32).toNat ≤ (1#32 <<< width).toNat := by
    rw [power]
    exact positive
  rw [field?, shiftRight?_eq word starts, shiftLeft?_eq _ narrow]
  simp only [Option.bind_eq_bind, Option.bind_some]
  rw [subtract?_eq _ one, Option.bind_some]
  congr 1
  apply BitVec.eq_of_toNat_eq
  have masked : (1#32 <<< width - 1#32).toNat = 2 ^ width - 1 := by
    rw [BitVec.toNat_sub_of_le (BitVec.le_def.mpr one), power]
    rfl
  rw [BitVec.toNat_and, BitVec.toNat_ushiftRight, masked, Nat.and_two_pow_sub_one_eq_mod,
    BitVec.toNat_setWidth, BitVec.extractLsb'_toNat]
  exact (Nat.mod_eq_of_lt (Nat.lt_trans (Nat.mod_lt _ positive) small)).symm

theorem toNat_field {offset width : Nat} (narrow : width ≤ 32) :
    ((word.extractLsb' offset width).setWidth 32).toNat = word.field offset width :=
  BitVec.toNat_setWidth_of_le narrow

/-! ## Flags and register numbers -/

def flag? (offset : Nat) : Option Bool := do
  some ((← word.field? offset 1) ≠ 0)

def doubleNumber? (low extension : Nat) : Option Nat := do
  let upper ← shiftLeft? (← word.field? extension 1) 4
  some (upper ||| (← word.field? low 4)).toNat

def singleNumber? (low extension : Nat) : Option Nat := do
  let upper ← shiftLeft? (← word.field? low 4) 1
  some (upper ||| (← word.field? extension 1)).toNat

def vectorClass? : Option RegisterClass := do
  some (if ← word.flag? 6 then .quad else .double)

def scalarClass? : Option RegisterClass := do
  some (if (← word.field? 8 2) = 3 then .double else .single)

def scalarNumber? (low extension : Nat) : Option Nat := do
  if (← word.field? 8 2) = 3 then word.doubleNumber? low extension
  else word.singleNumber? low extension

theorem flag?_eq {offset : Nat} (starts : offset < 32) :
    word.flag? offset = some (word.flag offset) := by
  have nonzero : ∀ x : BitVec 1, decide (x.setWidth 32 ≠ 0) = x.getLsbD 0 := by decide
  rw [flag?, word.field?_eq starts (by decide), Option.bind_eq_bind, Option.bind_some, nonzero,
    BitVec.getLsbD_extractLsb']
  rfl

theorem vectorClass?_eq : word.vectorClass? = some word.vectorClass := by
  rw [vectorClass?, word.flag?_eq (by decide)]
  rfl

theorem doubleNumber?_eq {low extension : Nat} (lowStarts : low < 32)
    (extensionStarts : extension < 32) :
    word.doubleNumber? low extension = some (word.doubleNumber low extension) := by
  have joined : ∀ (upper : BitVec 1) (lower : BitVec 4),
      upper.setWidth 32 <<< 4 ||| lower.setWidth 32 = (upper ++ lower).setWidth 32 := by
    decide
  rw [doubleNumber?, word.field?_eq lowStarts (by decide),
    word.field?_eq extensionStarts (by decide)]
  simp only [Option.bind_eq_bind, Option.bind_some, shiftLeft?_eq _ (show 4 < 32 by decide), joined]
  exact congrArg some (BitVec.toNat_setWidth_of_le (by decide))

theorem singleNumber?_eq {low extension : Nat} (lowStarts : low < 32)
    (extensionStarts : extension < 32) :
    word.singleNumber? low extension = some (word.singleNumber low extension) := by
  have joined : ∀ (upper : BitVec 4) (lower : BitVec 1),
      upper.setWidth 32 <<< 1 ||| lower.setWidth 32 = (upper ++ lower).setWidth 32 := by
    decide
  rw [singleNumber?, word.field?_eq lowStarts (by decide),
    word.field?_eq extensionStarts (by decide)]
  simp only [Option.bind_eq_bind, Option.bind_some, shiftLeft?_eq _ (show 1 < 32 by decide), joined]
  exact congrArg some (BitVec.toNat_setWidth_of_le (by decide))

theorem isDouble_iff : (word.extractLsb' 8 2).setWidth 32 = 3 ↔ word.field 8 2 = 3 := by
  have small : ∀ x : BitVec 2, x.setWidth 32 = 3 ↔ x.toNat = 3 := by decide
  exact small _

theorem scalarClass?_eq : word.scalarClass? = some word.scalarClass := by
  rw [scalarClass?, word.field?_eq (by decide) (by decide), Option.bind_eq_bind,
    Option.bind_some]
  simp only [isDouble_iff]
  rfl

theorem scalarNumber?_eq {low extension : Nat} (lowStarts : low < 32)
    (extensionStarts : extension < 32) :
    word.scalarNumber? low extension = some (word.scalarNumber low extension) := by
  rw [scalarNumber?, word.field?_eq (by decide) (by decide), Option.bind_eq_bind,
    Option.bind_some, word.doubleNumber?_eq lowStarts extensionStarts,
    word.singleNumber?_eq lowStarts extensionStarts, scalarNumber]
  simp only [isDouble_iff]
  split <;> rfl

end Word

/-! ## Immediates -/

def spreadBits? (byte : BitVec 64) : Option (BitVec 64) :=
  (List.range 8).foldlM (fun spread bit => do
    if (← shiftRight? byte bit) &&& 1 ≠ 0 then
      some (spread ||| (← shiftLeft? 0xff#64 (8 * bit)))
    else
      some spread) 0

def floatImmediate? (imm8 : BitVec 32) : Option (BitVec 32) := do
  let a := (← shiftRight? imm8 7) &&& 1
  let b := (← shiftRight? imm8 6) &&& 1
  let repeated := if b ≠ 0 then 0x7c#32 else 0
  let exponent :=
    (← shiftLeft? (b ^^^ 1) 7) ||| repeated ||| ((← shiftRight? imm8 4) &&& 3)
  some ((← shiftLeft? a 31) ||| (← shiftLeft? exponent 23) ||| (← shiftLeft? (imm8 &&& 0xf) 19))

def expandImmediate? (cmode op imm8 : BitVec 32) : Option ExpandedImmediate := do
  let wide := (imm8 &&& 0xff).setWidth 64
  let mode := (← shiftRight? cmode 1).toNat
  if mode < 4 then
    some ⟨← shiftLeft? wide (8 * mode), 2⟩
  else if mode < 6 then
    some ⟨← shiftLeft? wide (8 * (mode % 2)), 1⟩
  else if mode = 6 then
    if cmode &&& 1 = 0 then some ⟨(← shiftLeft? wide 8) ||| 0xff, 2⟩
    else some ⟨(← shiftLeft? wide 16) ||| 0xffff, 2⟩
  else if cmode &&& 1 ≠ 0 then
    some ⟨(← floatImmediate? imm8).setWidth 64, 2⟩
  else if op = 0 then
    some ⟨wide, 0⟩
  else
    some ⟨← spreadBits? wide, 3⟩

theorem spreadBits?_eq : ∀ byte : BitVec 8,
    spreadBits? (byte.setWidth 64) = some (spreadBits byte) := by
  decide +kernel

theorem floatImmediate?_eq : ∀ byte : BitVec 8,
    floatImmediate? (byte.setWidth 32) = some (floatImmediate byte) := by
  decide +kernel

/-- Only the low byte is used, whatever stands above it. -/
theorem floatImmediate?_and_byte (imm8 : BitVec 32) :
    floatImmediate? (imm8 &&& 0xff) = floatImmediate? imm8 := by
  have masked : ∀ (amount : Nat) (mask : BitVec 32), (0xff : BitVec 32) >>> amount &&& mask = mask →
      (imm8 &&& 0xff) >>> amount &&& mask = imm8 >>> amount &&& mask := by
    intro amount mask covered
    rw [BitVec.ushiftRight_and_distrib, BitVec.and_assoc, covered]
  have low : imm8 &&& 0xff &&& 0xf = imm8 &&& 0xf := by
    rw [BitVec.and_assoc]
    rfl
  simp only [floatImmediate?, shiftRight?_eq _ (show 7 < 32 by decide),
    shiftRight?_eq _ (show 6 < 32 by decide), shiftRight?_eq _ (show 4 < 32 by decide),
    Option.bind_eq_bind, Option.bind_some, masked 7 1 (by decide), masked 6 1 (by decide),
    masked 4 3 (by decide), low]

theorem expandImmediate?_eq (cmode op imm8 : BitVec 32) :
    expandImmediate? cmode op imm8 =
      some (expandImmediate cmode.toNat op.toNat imm8.toNat) := by
  have byte : imm8 &&& 0xff = (BitVec.ofNat 8 imm8.toNat).setWidth 32 := by
    apply BitVec.eq_of_toNat_eq
    rw [BitVec.toNat_and, BitVec.toNat_setWidth_of_le (by decide), BitVec.toNat_ofNat]
    exact Nat.and_two_pow_sub_one_eq_mod imm8.toNat 8
  have wide : ∀ low : BitVec 8, (low.setWidth 32).setWidth 64 = low.setWidth 64 :=
    fun _ => BitVec.setWidth_setWidth (by decide)
  have halved : (cmode >>> 1).toNat = cmode.toNat / 2 := by
    rw [BitVec.toNat_ushiftRight, Nat.shiftRight_eq_div_pow, Nat.pow_one]
  have even : cmode &&& 1 = 0 ↔ cmode.toNat % 2 = 0 := by
    rw [← BitVec.toNat_inj, BitVec.toNat_and]
    exact iff_of_eq (congrArg (· = 0) (Nat.and_one_is_mod cmode.toNat))
  have zero : op = 0 ↔ op.toNat = 0 := BitVec.toNat_inj.symm
  rw [expandImmediate?, shiftRight?_eq _ (by decide), Option.bind_eq_bind, Option.bind_some,
    expandImmediate, ← floatImmediate?_and_byte, byte]
  simp only [wide, halved, even, zero, ne_eq, floatImmediate?_eq, spreadBits?_eq]
  split
  · rw [shiftLeft?_eq _ (by omega)]
    rfl
  · split
    · rw [shiftLeft?_eq _ (by omega)]
      rfl
    · split
      · split <;> rfl
      · split
        · rfl
        · split <;> rfl

/-! ## Operands -/

namespace Layout

def decode? (word : Word) : Layout → Option Operands
  | .bitfield => do
      some (.bitfield {
        destination := (← word.field? 12 4).toNat
        source := (← word.field? 0 4).toNat
        msb := (← word.field? 16 5).toNat
        lsb := (← word.field? 7 5).toNat })
  | .vectorPair => do
      some (.vectorPair {
        destination := ← word.doubleNumber? 12 22
        source := ← word.doubleNumber? 0 5
        size := (← word.field? 18 2).toNat
        quad := ← word.flag? 6
        float := ← word.flag? 10
        registers := ← word.vectorClass? })
  | .vectorTriple => do
      some (.vectorTriple {
        destination := ← word.doubleNumber? 12 22
        left := ← word.doubleNumber? 16 7
        right := ← word.doubleNumber? 0 5
        size := (← word.field? 20 2).toNat
        quad := ← word.flag? 6
        unsigned := ← word.flag? 24
        registers := ← word.vectorClass? })
  | .scalarPair => do
      some (.scalarPair {
        destination := ← word.scalarNumber? 12 22
        source := ← word.scalarNumber? 0 5
        size := (← word.field? 8 2).toNat
        registers := ← word.scalarClass? })
  | .scalarTriple => do
      some (.scalarTriple {
        destination := ← word.scalarNumber? 12 22
        left := ← word.scalarNumber? 16 7
        right := ← word.scalarNumber? 0 5
        size := (← word.field? 8 2).toNat
        registers := ← word.scalarClass? })
  | .vectorImmediate => do
      let op ← word.field? 5 1
      let cmode ← word.field? 8 4
      let imm8 := (← shiftLeft? (← word.field? 24 1) 7) |||
        (← shiftLeft? (← word.field? 16 3) 4) ||| (← word.field? 0 4)
      let expanded ← expandImmediate? cmode op imm8
      some (.vectorImmediate {
        destination := ← word.doubleNumber? 12 22
        quad := ← word.flag? 6
        op := op.toNat
        cmode := cmode.toNat
        imm8 := imm8.toNat
        immediate := expanded.element
        size := expanded.size
        registers := ← word.vectorClass? })

theorem decode?_eq (word : Word) (layout : Layout) :
    layout.decode? word = some (layout.decode word) := by
  cases layout with
  | bitfield =>
      simp only [decode?, decode, Word.field?_eq, Word.toNat_field, Nat.reduceLT, Nat.reduceLeDiff,
        Option.bind_eq_bind, Option.bind_some]
  | vectorPair | vectorTriple =>
      simp only [decode?, decode, Word.field?_eq, Word.toNat_field, Word.doubleNumber?_eq,
        Word.flag?_eq, Word.vectorClass?_eq, Nat.reduceLT, Nat.reduceLeDiff, Option.bind_eq_bind,
        Option.bind_some]
  | scalarPair | scalarTriple =>
      simp only [decode?, decode, Word.field?_eq, Word.toNat_field, Word.scalarNumber?_eq,
        Word.scalarClass?_eq, Nat.reduceLT, Nat.reduceLeDiff, Option.bind_eq_bind,
        Option.bind_some]
  | vectorImmediate =>
      have joined : ∀ (upper : BitVec 1) (middle : BitVec 3) (lower : BitVec 4),
          upper.setWidth 32 <<< 7 ||| middle.setWidth 32 <<< 4 ||| lower.setWidth 32 =
            (upper ++ middle ++ lower).setWidth 32 := by
        decide +kernel
      simp only [decode?, decode, Word.field?_eq, Word.toNat_field, Word.doubleNumber?_eq,
        Word.flag?_eq, Word.vectorClass?_eq, shiftLeft?_eq, joined, Nat.reduceLT,
        Nat.reduceLeDiff, Option.bind_eq_bind, Option.bind_some]
      rw [expandImmediate?_eq, Option.bind_some, BitVec.toNat_setWidth_of_le (by decide)]
      rfl

end Layout

/-! ## Bitfields -/

namespace Bitfield

def sourceMask? (field : Bitfield) : Option (BitVec 32) := do
  let amount ← subtract? 31#32 (.ofNat 32 field.msb)
  shiftRight? (.allOnes 32) amount.toNat

def destinationMask? (field : Bitfield) : Option (BitVec 32) := do
  shiftLeft? (← field.sourceMask?) field.lsb

/-- An empty field is masked without a shift, which would be by the whole width. -/
def widthMask? (field : Bitfield) : Option (BitVec 32) :=
  if field.width = 0 then
    some 0
  else do
    let amount ← subtract? 32#32 (.ofNat 32 field.width)
    shiftRight? (.allOnes 32) amount.toNat

variable {field : Bitfield}

theorem subtract?_ofNat {limit amount : Nat} (inside : amount ≤ limit) (small : limit < 2 ^ 32) :
    (subtract? (.ofNat 32 limit) (.ofNat 32 amount)).map BitVec.toNat = some (limit - amount) := by
  have isLimit : (BitVec.ofNat 32 limit).toNat = limit := Nat.mod_eq_of_lt small
  have isAmount : (BitVec.ofNat 32 amount).toNat = amount := Nat.mod_eq_of_lt (by omega)
  have ordered : (BitVec.ofNat 32 amount).toNat ≤ (BitVec.ofNat 32 limit).toNat := by
    rw [isLimit, isAmount]
    exact inside
  rw [subtract?_eq _ ordered, Option.map_some, BitVec.toNat_sub_of_le (BitVec.le_def.mpr ordered),
    isLimit, isAmount]

theorem sourceMask?_eq (inside : field.msb < 32) : field.sourceMask? = some field.sourceMask := by
  rcases Option.map_eq_some_iff.mp (subtract?_ofNat (Nat.le_of_lt_succ inside) (by decide)) with
    ⟨amount, subtracted, isAmount⟩
  have small : 31 - field.msb < 32 := by omega
  rw [sourceMask?, subtracted, Option.bind_eq_bind, Option.bind_some, isAmount,
    shiftRight?_eq _ small, sourceMask]

theorem destinationMask?_eq (source : field.msb < 32) (inside : field.lsb < 32) :
    field.destinationMask? = some field.destinationMask := by
  rw [destinationMask?, sourceMask?_eq source, Option.bind_eq_bind, Option.bind_some,
    shiftLeft?_eq _ inside, destinationMask]

theorem widthMask?_eq (inside : field.msb < 32) : field.widthMask? = some field.widthMask := by
  rw [widthMask?, widthMask]
  split
  · rename_i none
    rw [none]
    rfl
  · have fits : field.width ≤ 32 := by
      rw [width]
      omega
    rcases Option.map_eq_some_iff.mp (subtract?_ofNat fits (by decide)) with
      ⟨amount, subtracted, isAmount⟩
    have small : 32 - field.width < 32 := by omega
    rw [subtracted, Option.bind_eq_bind, Option.bind_some, isAmount, shiftRight?_eq _ small]

end Bitfield

end Guest

end LaneLift
