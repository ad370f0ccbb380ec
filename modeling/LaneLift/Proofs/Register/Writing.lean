import LaneLift.Lane.ValueType
import LaneLift.Proofs.Register.Span

/-!
# Views of a flat memory

Banks, lanes, `S` registers and `D` registers are views of one little-endian memory of 256 bytes.
A write through a view overwrites the span of the view and no other byte. A read through a view
gives the number in its span, whatever views the memory was written through.
-/

namespace LaneLift

open Lane (ScalarType)

/-! ## Flat memory -/

abbrev FlatMemory := Vector (BitVec 8) 256

namespace FlatMemory

def byte (memory : FlatMemory) (offset : Nat) : BitVec 8 :=
  memory[offset]?.getD 0

def number (memory : FlatMemory) (offset width : Nat) : BitVec width :=
  littleEndian width ((List.range (width / 8)).map fun index => memory.byte (offset + index))

/-- Overwrite a span by as many low bytes of the given bits, the least significant first. -/
def overwrite (memory : FlatMemory) (span : Span) {width : Nat} (bits : BitVec width) :
    FlatMemory :=
  Vector.ofFn fun offset =>
    if span.Covers offset then bits.extractLsb' (8 * (offset - span.offset)) 8
    else memory[offset]

end FlatMemory

namespace RegisterFile

def memory (file : RegisterFile) : FlatMemory :=
  Vector.ofFn fun offset => file.byte offset

theorem byte_memory (file : RegisterFile) (offset : Nat) :
    file.memory.byte offset = file.byte offset := by
  by_cases inside : offset < 256
  · simp [FlatMemory.byte, memory, inside]
  · have absent : ¬offset / 16 < bankCount := by
      rw [Nat.div_lt_iff_lt_mul (by decide)]
      exact inside
    simp [FlatMemory.byte, inside, byte, image, bank?, absent, Image.byte, Image.lane]

theorem number_memory (file : RegisterFile) (offset width : Nat) :
    file.memory.number offset width = file.number offset width := by
  rw [FlatMemory.number, number]
  simp only [byte_memory]

/-- A register file that has the given bits in a span and agrees with another one outside of it
is the other one with the span overwritten. -/
theorem memory_eq_overwrite {after before : RegisterFile} {span : Span} {width : Nat}
    {bits : BitVec width}
    (covered : ∀ index < span.bytes,
      after.byte (span.offset + index) = bits.extractLsb' (8 * index) 8)
    (spared : AgreeOutside span after before) :
    after.memory = before.memory.overwrite span bits := by
  apply Vector.ext
  intro offset inside
  by_cases covers : span.Covers offset
  · have insideSpan : offset - span.offset < span.bytes :=
      Nat.sub_lt_left_of_lt_add covers.1 covers.2
    have byte := covered _ insideSpan
    rw [Nat.add_sub_cancel' covers.1] at byte
    simpa [FlatMemory.overwrite, memory, covers] using byte
  · simpa [FlatMemory.overwrite, memory, covers] using spared offset covers

/-! ## Lanes -/

section Lanes

variable (file : RegisterFile) {bank : Nat} (width index : Nat) (inside : bank < bankCount)
  (whole : 8 ∣ width) (positive : 0 < width) (fits : width * index + width ≤ 128)

include whole positive fits in
theorem memory_setBank_setLane {given : Nat} (bits : BitVec given) :
    (file.setBank ⟨bank, inside⟩ ((file.image bank).setLane index (bits.setWidth width))).memory =
      file.memory.overwrite ⟨16 * bank + width / 8 * index, width / 8⟩ bits := by
  apply memory_eq_overwrite
  · intro byte insideLane
    rw [byte_eq_extractLsb'_number _ _ whole insideLane,
      number_setBank_setLane file ⟨bank, inside⟩ whole positive fits]
    have fitsByte : 8 * (byte + 1) ≤ width := by
      rw [← Nat.mul_div_cancel' whole]
      exact Nat.mul_le_mul_left 8 insideLane
    apply BitVec.eq_of_getLsbD_eq
    intro bit insideByte
    have insideWidth : 8 * byte + bit < width := by omega
    simp [insideWidth]
  · exact agreeOutside_setBank_setLane file ⟨bank, inside⟩ whole positive _

include inside fits in
theorem setLane?_eq_setBank (value : BitVec width) :
    file.setLane? bank index value =
      some (file.setBank ⟨bank, inside⟩ ((file.image bank).setLane index value)) := by
  rw [setLane?, if_pos fits, bank?_eq_image file inside, Option.bind_some, setBank?,
    dif_pos inside]

include inside whole positive fits in
theorem exists_setLane? {given : Nat} (bits : BitVec given) :
    ∃ after, file.setLane? bank index (bits.setWidth width) = some after ∧
      after.memory =
        file.memory.overwrite ⟨16 * bank + width / 8 * index, width / 8⟩ bits :=
  ⟨_, setLane?_eq_setBank file width index inside fits _,
    memory_setBank_setLane file width index inside whole positive fits bits⟩

include inside whole fits in
theorem lane?_eq_number :
    file.lane? bank width index =
      some (file.memory.number (16 * bank + width / 8 * index) width) := by
  rw [lane?, if_pos fits, bank?_eq_image file inside, Option.map_some, number_memory,
    number_eq_lane file bank width index whole fits]

end Lanes

end RegisterFile

/-- A bank is its only lane of full width. -/
theorem Image.setLane_zero (image content : Image) : image.setLane 0 content = content := by
  apply BitVec.eq_of_getLsbD_eq
  intro bit inside
  rw [getLsbD_setLane, Nat.mul_zero, Nat.zero_add, if_pos ⟨Nat.zero_le bit, inside⟩, Nat.sub_zero,
    decide_eq_true inside, Bool.true_and]

theorem Image.lane_zero (image : Image) : image.lane 128 0 = image := by
  rw [lane, Nat.mul_zero, BitVec.extractLsb'_eq_self]

/-! ## Reads -/

namespace RegisterFile

theorem mapM_eq_some {α β : Type} {read? : α → Option β} {read : α → β} {list : List α}
    (reads : ∀ element ∈ list, read? element = some (read element)) :
    list.mapM read? = some (list.map read) := by
  induction list with
  | nil => rfl
  | cons element rest induction =>
      rw [List.forall_mem_cons] at reads
      rw [List.mapM_cons, reads.1, induction reads.2]
      rfl

theorem single_offset (number : Nat) : 16 * (number / 4) + 32 / 8 * (number % 4) = 4 * number := by
  omega

theorem double_offset (number : Nat) : 16 * (number / 2) + 64 / 8 * (number % 2) = 8 * number := by
  omega

structure ReadsFrom (file : RegisterFile) (memory : FlatMemory) : Prop where
  bank : ∀ bank < bankCount, file.bank? bank = some (memory.number (16 * bank) 128)
  lane : ∀ bank < bankCount, ∀ type : ScalarType, ∀ lane < type.lanesPerBank,
    file.lane? bank type.width lane =
      some (memory.number (16 * bank + type.width / 8 * lane) type.width)
  lanes : ∀ bank < bankCount, ∀ type : ScalarType,
    file.lanes? bank type.width = some ((List.range type.lanesPerBank).map fun lane =>
      memory.number (16 * bank + type.width / 8 * lane) type.width)
  single : ∀ number < 64, file.single? number = some (memory.number (4 * number) 32)
  double : ∀ number < 32, file.double? number = some (memory.number (8 * number) 64)

theorem readsFrom_memory (file : RegisterFile) : file.ReadsFrom file.memory where
  bank bank inside := by
    have whole := number_eq_lane file bank 128 0 (by decide) (by decide)
    rw [Nat.mul_zero, Nat.add_zero, Image.lane_zero] at whole
    rw [bank?_eq_image file inside, number_memory, whole]
  lane bank inside type lane insideBank :=
    lane?_eq_number file _ _ inside type.eight_dvd_width (ScalarType.mul_lane_add_le insideBank)
  lanes bank inside type := by
    apply mapM_eq_some
    intro lane member
    exact lane?_eq_number file _ _ inside type.eight_dvd_width
      (ScalarType.mul_lane_add_le (List.mem_range.mp member))
  single number small := by
    have inside : number / 4 < bankCount := Nat.div_lt_of_lt_mul small
    rw [single?, lane?_eq_number file _ _ inside (by decide) (by omega), single_offset]
  double number small := by
    have inside : number / 2 < bankCount := Nat.div_lt_of_lt_mul small
    rw [double?, lane?_eq_number file _ _ inside (by decide) (by omega), double_offset]

end RegisterFile

def RegisterClass.LiesAt (registers : RegisterClass) (index offset : Nat) : Prop :=
  ∃ location, registers.location? index = some location ∧
    16 * location.bank + registers.bytes * location.position = offset ∧
    location.position < 16 / registers.bytes

/-! ## Writes -/

inductive Write where
  | setBank (bank : Nat) (content : Image)
  /-- A lane takes the low bits of what is written to it. -/
  | setLane (bank : Nat) (type : ScalarType) (lane : Nat) (bits : BitVec 64)
  | setSingle (number : Nat) (bits : BitVec 32)
  | setDouble (number : Nat) (bits : BitVec 64)
  deriving DecidableEq, Repr

namespace Write

def InRange : Write → Prop
  | .setBank bank _ => bank < bankCount
  | .setLane bank type lane _ => bank < bankCount ∧ lane < type.lanesPerBank
  | .setSingle number _ => number < 64
  | .setDouble number _ => number < 32

instance : DecidablePred InRange
  | .setBank bank _ => inferInstanceAs (Decidable (bank < bankCount))
  | .setLane _ _ _ _ => inferInstanceAs (Decidable (_ ∧ _))
  | .setSingle number _ => inferInstanceAs (Decidable (number < 64))
  | .setDouble number _ => inferInstanceAs (Decidable (number < 32))

def perform? (file : RegisterFile) : Write → Option RegisterFile
  | .setBank bank content => file.setBank? bank content
  | .setLane bank type lane bits => file.setLane? bank lane (bits.setWidth type.width)
  | .setSingle number bits => file.setSingle? number bits
  | .setDouble number bits => file.setDouble? number bits

def overwrite (memory : FlatMemory) : Write → FlatMemory
  | .setBank bank content => memory.overwrite ⟨16 * bank, 16⟩ content
  | .setLane bank type lane bits =>
      memory.overwrite ⟨16 * bank + type.width / 8 * lane, type.width / 8⟩ bits
  | .setSingle number bits => memory.overwrite ⟨4 * number, 4⟩ bits
  | .setDouble number bits => memory.overwrite ⟨8 * number, 8⟩ bits

theorem exists_perform? (file : RegisterFile) {write : Write} (inRange : write.InRange) :
    ∃ after, perform? file write = some after ∧ after.memory = overwrite file.memory write := by
  cases write with
  | setBank bank content =>
      have replaced := file.memory_setBank_setLane 128 0 inRange (by decide) (by decide)
        (by decide) content
      rw [BitVec.setWidth_eq, Image.setLane_zero] at replaced
      exact ⟨_, dif_pos inRange, replaced⟩
  | setLane bank type lane bits =>
      exact file.exists_setLane? _ _ inRange.1 type.eight_dvd_width type.width_pos
        (ScalarType.mul_lane_add_le inRange.2) bits
  | setSingle number bits =>
      have inside : number / 4 < bankCount := Nat.div_lt_of_lt_mul inRange
      have written := file.exists_setLane? 32 (number % 4) inside (by decide) (by decide)
        (by omega) bits
      rw [BitVec.setWidth_eq, RegisterFile.single_offset] at written
      exact written
  | setDouble number bits =>
      have inside : number / 2 < bankCount := Nat.div_lt_of_lt_mul inRange
      have written := file.exists_setLane? 64 (number % 2) inside (by decide) (by decide)
        (by omega) bits
      rw [BitVec.setWidth_eq, RegisterFile.double_offset] at written
      exact written

def performAll? (file : RegisterFile) (writes : List Write) : Option RegisterFile :=
  writes.foldlM perform? file

def overwriteAll (memory : FlatMemory) (writes : List Write) : FlatMemory :=
  writes.foldl overwrite memory

theorem exists_performAll? (file : RegisterFile) {writes : List Write}
    (inRange : ∀ write ∈ writes, write.InRange) :
    ∃ after, performAll? file writes = some after ∧
      after.memory = overwriteAll file.memory writes := by
  induction writes generalizing file with
  | nil => exact ⟨file, rfl, rfl⟩
  | cons write writes induction =>
      rw [List.forall_mem_cons] at inRange
      rcases exists_perform? file inRange.1 with ⟨next, performed, overwritten⟩
      rcases induction next inRange.2 with ⟨after, performedRest, overwrittenRest⟩
      refine ⟨after, ?_, ?_⟩
      · rw [performAll?, List.foldlM_cons, performed]
        exact performedRest
      · rw [overwrittenRest, overwritten, overwriteAll, overwriteAll, List.foldl_cons]

/-- Through whatever views it is written and read, the register file is a flat memory, and the
locations of registers are offsets in it. -/
theorem performAll_flat (file : RegisterFile) (writes : List Write)
    (inRange : ∀ write ∈ writes, write.InRange) :
    (∃ after, performAll? file writes = some after ∧
      after.memory = overwriteAll file.memory writes ∧
      after.ReadsFrom (overwriteAll file.memory writes)) ∧
    ∀ index, RegisterClass.single.LiesAt index (4 * index) ∧
      RegisterClass.double.LiesAt index (8 * index) ∧
      RegisterClass.quad.LiesAt index (8 * (index - index % 2)) := by
  constructor
  · rcases exists_performAll? file inRange with ⟨after, performed, overwritten⟩
    refine ⟨after, performed, overwritten, ?_⟩
    rw [← overwritten]
    exact after.readsFrom_memory
  · intro index
    refine ⟨⟨.ofSingle index, rfl, ?_, ?_⟩, ⟨.ofDouble index, rfl, ?_, ?_⟩,
      ⟨.ofQuad index, rfl, ?_, ?_⟩⟩
    all_goals
      simp only [Location.ofSingle, Location.ofDouble, Location.ofQuad, RegisterClass.bytes]
      omega

theorem performAll_flat_overlapping :
    let writes : List Write :=
      [.setDouble 3 0x1122334455667788, .setLane 1 .i16 6 0xffffabcd, .setSingle 6 0x3f800000]
    (∀ write ∈ writes, write.InRange) ∧
      (∃ after, performAll? .zero writes = some after ∧
        after.memory = overwriteAll RegisterFile.zero.memory writes ∧
        after.ReadsFrom (overwriteAll RegisterFile.zero.memory writes) ∧
        after.double? 3 = some 0x1122abcd3f800000) ∧
      ∀ index, RegisterClass.single.LiesAt index (4 * index) ∧
        RegisterClass.double.LiesAt index (8 * index) ∧
        RegisterClass.quad.LiesAt index (8 * (index - index % 2)) := by
  intro writes
  have inRange : ∀ write ∈ writes, write.InRange := by decide
  rcases performAll_flat .zero writes inRange with ⟨⟨after, performed, content, reads⟩, lies⟩
  have read : (overwriteAll RegisterFile.zero.memory writes).number (8 * 3) 64 =
      0x1122abcd3f800000 := by
    decide +kernel
  refine ⟨inRange, ⟨after, performed, content, reads, ?_⟩, lies⟩
  rw [reads.double 3 (by decide), read]

end Write

end LaneLift
