import LaneLift.Register.Class
import LaneLift.Register.File
import Mathlib.Algebra.Ring.Nat

/-!
# The register file as memory

The banks lie one behind another in a little-endian memory of 256 bytes, and
every register is an interval of it. A lane of a bank is the number at its
place in this memory, and committing an image in which some adjacent lanes
have been replaced changes the bytes of those lanes only.
-/

namespace LaneLift

instance : NeZero bankCount :=
  ⟨by decide⟩

def littleEndian (width : Nat) : List (BitVec 8) → BitVec width
  | [] => 0
  | byte :: rest => byte.setWidth width ||| littleEndian width rest <<< 8

theorem getLsbD_littleEndian (width : Nat) :
    ∀ (bytes : List (BitVec 8)) (bit : Nat),
      (littleEndian width bytes).getLsbD bit =
        (decide (bit < width) && (bytes.getD (bit / 8) 0).getLsbD (bit % 8))
  | [], bit => by simp [littleEndian]
  | byte :: rest, bit => by
      have induction := getLsbD_littleEndian width rest (bit - 8)
      rw [littleEndian, BitVec.getLsbD_or, BitVec.getLsbD_setWidth, BitVec.getLsbD_shiftLeft,
        induction]
      by_cases low : bit < 8
      · have quotient : bit / 8 = 0 := by omega
        have remainder : bit % 8 = bit := by omega
        simp [low, quotient, remainder]
      · have quotient : bit / 8 = (bit - 8) / 8 + 1 := by omega
        have remainder : bit % 8 = (bit - 8) % 8 := by omega
        have absent : byte.getLsbD bit = false := BitVec.getLsbD_of_ge byte bit (by omega)
        by_cases inside : bit < width
        · have insideRest : bit - 8 < width := by omega
          rw [quotient, remainder]
          simp [low, absent, inside, insideRest]
        · simp [inside]

namespace Image

theorem getLsbD_lane (image : Image) (width index bit : Nat) :
    (image.lane width index).getLsbD bit =
      (decide (bit < width) && image.getLsbD (width * index + bit)) := by
  rw [lane, BitVec.getLsbD_extractLsb']

def setLanes (image : Image) {width : Nat} (first count : Nat) (value : Nat → BitVec width) :
    Image :=
  (List.range count).foldl (fun image index => image.setLane (index + first) (value index)) image

/-- A bit of a replaced lane comes from the lane's value and any other is kept. -/
theorem getLsbD_setLanes (image : Image) {width : Nat} (positive : 0 < width)
    (first count : Nat) (value : Nat → BitVec width) (bit : Nat) (inside : bit < 128) :
    (image.setLanes first count value).getLsbD bit =
      if width * first ≤ bit ∧ bit < width * (first + count) then
        (value (bit / width - first)).getLsbD (bit % width)
      else
        image.getLsbD bit := by
  induction count with
  | zero =>
      have outside : ¬(width * first ≤ bit ∧ bit < width * first) := by omega
      simp [setLanes, outside]
  | succ count induction =>
      have unfolded : image.setLanes first (count + 1) value =
          (image.setLanes first count value).setLane (count + first) (value count) := by
        simp [setLanes, List.range_succ]
      have lower : width * (first + count) = width * (count + first) := by rw [Nat.add_comm first]
      have upper : width * (first + (count + 1)) = width * (count + first) + width := by
        rw [← Nat.add_assoc, Nat.mul_succ, lower]
      have start : width * first ≤ width * (count + first) :=
        Nat.mul_le_mul_left width (Nat.le_add_left first count)
      rw [unfolded, getLsbD_setLane, induction, upper, lower]
      by_cases last : width * (count + first) ≤ bit ∧ bit < width * (count + first) + width
      · have quotient : bit / width = count + first :=
          Nat.div_eq_of_lt_le (by rw [Nat.mul_comm]; exact last.1)
            (by rw [Nat.succ_mul, Nat.mul_comm]; exact last.2)
        have remainder : bit % width = bit - width * (count + first) := by
          rw [Nat.mod_eq_sub_mul_div, quotient]
        have covered : width * first ≤ bit ∧ bit < width * (count + first) + width := by omega
        rw [if_pos last, if_pos covered, quotient, remainder, Nat.add_sub_cancel]
        simp [inside]
      · rw [if_neg last]
        by_cases earlier : width * first ≤ bit ∧ bit < width * (count + first)
        · have covered : width * first ≤ bit ∧ bit < width * (count + first) + width := by omega
          rw [if_pos earlier, if_pos covered]
        · have uncovered :
              ¬(width * first ≤ bit ∧ bit < width * (count + first) + width) := by omega
          rw [if_neg earlier, if_neg uncovered]

theorem lane_setLanes (image : Image) {width : Nat} (positive : 0 < width)
    (first count : Nat) (value : Nat → BitVec width) (index : Nat) (replaced : index < count)
    (fits : width * (first + count) ≤ 128) :
    (image.setLanes first count value).lane width (index + first) = value index := by
  apply BitVec.eq_of_getLsbD_eq
  intro bit inside
  have start : width * first ≤ width * (index + first) :=
    Nat.mul_le_mul_left width (Nat.le_add_left first index)
  have stop : width * (index + first) + width ≤ width * (first + count) := by
    rw [← Nat.mul_succ]
    exact Nat.mul_le_mul_left width (by omega)
  have quotient : (width * (index + first) + bit) / width = index + first := by
    rw [Nat.mul_add_div positive, Nat.div_eq_of_lt inside, Nat.add_zero]
  have remainder : (width * (index + first) + bit) % width = bit := by
    rw [Nat.mul_add_mod, Nat.mod_eq_of_lt inside]
  rw [getLsbD_lane, getLsbD_setLanes image positive first count value _ (by omega),
    if_pos (by omega), quotient, remainder, Nat.add_sub_cancel]
  simp [inside]

end Image

def RegisterClass.offset : RegisterClass → Nat → Nat
  | .single, index => 4 * index
  | .double, index => 8 * index
  | .quad, index => 16 * (index / 2)
  | .general32, _ | .general64, _ => 0

theorem RegisterClass.offset_eq_location {registers : RegisterClass} {index : Nat}
    {location : Location} (located : registers.location? index = some location) :
    registers.offset index = 16 * location.bank + registers.bytes * location.position := by
  cases registers <;> simp only [location?, Option.some.injEq, reduceCtorEq] at located <;>
    subst located <;>
    simp only [offset, bytes, Location.ofSingle, Location.ofDouble, Location.ofQuad] <;>
    omega

namespace RegisterFile

/-- The image in bank `bank`; there is nothing but zeros behind the last one. -/
def image (file : RegisterFile) (bank : Nat) : Image :=
  (file.bank? bank).getD 0

def byte (file : RegisterFile) (offset : Nat) : BitVec 8 :=
  (file.image (offset / 16)).byte (offset % 16)

/-- The number of `width` bits, a multiple of eight, that begins at an offset. -/
def number (file : RegisterFile) (offset width : Nat) : BitVec width :=
  littleEndian width ((List.range (width / 8)).map fun index => file.byte (offset + index))

theorem bank?_eq_image (file : RegisterFile) {bank : Nat} (inside : bank < bankCount) :
    file.bank? bank = some (file.image bank) := by
  simp [image, bank?, inside]

theorem image_setBank (file : RegisterFile) (bank : Fin bankCount) (image : Image)
    (other : Nat) :
    (file.setBank bank image).image other =
      if bank.val = other then image else file.image other := by
  rw [RegisterFile.image, bank?_setBank]
  by_cases same : bank.val = other
  · simp [same]
  · simp [same, RegisterFile.image]

theorem getLsbD_byte (file : RegisterFile) (offset bit : Nat) :
    (file.byte offset).getLsbD bit =
      (decide (bit < 8) && (file.image (offset / 16)).getLsbD (8 * (offset % 16) + bit)) := by
  rw [byte, Image.byte, Image.getLsbD_lane]

theorem getLsbD_number (file : RegisterFile) (offset width bit : Nat) (whole : 8 ∣ width) :
    (file.number offset width).getLsbD bit =
      (decide (bit < width) && (file.byte (offset + bit / 8)).getLsbD (bit % 8)) := by
  rw [number, getLsbD_littleEndian]
  by_cases inside : bit < width
  · have listed : bit / 8 < width / 8 := by omega
    simp [inside, listed, List.getD_eq_getElem?_getD]
  · simp [inside]

theorem getLsbD_number_element (file : RegisterFile) (offset : Nat) {whole width bit : Nat}
    (wholeBytes : 8 ∣ whole) (widthBytes : 8 ∣ width) (positive : 0 < width)
    (inside : bit < whole) :
    (file.number offset whole).getLsbD bit =
      (file.number (offset + width / 8 * (bit / width)) width).getLsbD (bit % width) := by
  rcases widthBytes with ⟨bytes, rfl⟩
  have insideElement : bit % (8 * bytes) < 8 * bytes := Nat.mod_lt bit positive
  have sameByte : bytes * (bit / (8 * bytes)) + bit % (8 * bytes) / 8 = bit / 8 := by
    rw [Nat.mod_mul_right_div_self, ← Nat.div_div_eq_div_mul, Nat.div_add_mod]
  have sameBit : bit % (8 * bytes) % 8 = bit % 8 := Nat.mod_mul_right_mod bit 8 bytes
  rw [getLsbD_number file _ _ _ wholeBytes, getLsbD_number file _ _ _ ⟨bytes, rfl⟩, sameBit,
    Nat.mul_div_cancel_left bytes (by omega), Nat.add_assoc, sameByte]
  simp [inside, insideElement]

theorem number_eq_lane (file : RegisterFile) (bank width index : Nat) (whole : 8 ∣ width)
    (fits : width * index + width ≤ 128) :
    file.number (16 * bank + width / 8 * index) width = (file.image bank).lane width index := by
  apply BitVec.eq_of_getLsbD_eq
  intro bit inside
  rcases whole with ⟨bytes, rfl⟩
  have scaled : 8 * bytes / 8 * index = bytes * index := by
    rw [Nat.mul_div_cancel_left bytes (by omega)]
  have start : 8 * bytes * index = 8 * (bytes * index) := Nat.mul_assoc 8 bytes index
  have sameBank : (16 * bank + 8 * bytes / 8 * index + bit / 8) / 16 = bank := by
    rw [scaled]
    omega
  have sameBit : 8 * ((16 * bank + 8 * bytes / 8 * index + bit / 8) % 16) + bit % 8 =
      8 * bytes * index + bit := by
    rw [scaled]
    omega
  rw [getLsbD_number file _ _ _ ⟨bytes, rfl⟩, getLsbD_byte, Image.getLsbD_lane, sameBank, sameBit]
  simp [Nat.mod_lt bit (show 8 > 0 by omega)]

/-- Committing an image in which some adjacent lanes have been replaced changes
the bytes of those lanes only. -/
theorem byte_setBank_setLanes (file : RegisterFile) (bank : Fin bankCount) {width : Nat}
    (positive : 0 < width) (whole : 8 ∣ width) (first count : Nat) (value : Nat → BitVec width)
    (offset : Nat)
    (outside : offset < 16 * bank + width / 8 * first ∨
      16 * bank + width / 8 * (first + count) ≤ offset) :
    (file.setBank bank ((file.image bank).setLanes first count value)).byte offset =
      file.byte offset := by
  rcases whole with ⟨bytes, rfl⟩
  rw [Nat.mul_div_cancel_left bytes (by omega)] at outside
  apply BitVec.eq_of_getLsbD_eq
  intro bit inside
  rw [getLsbD_byte, getLsbD_byte, image_setBank]
  by_cases same : bank.val = offset / 16
  · have lower : 8 * bytes * first = 8 * (bytes * first) := Nat.mul_assoc 8 bytes first
    have upper : 8 * bytes * (first + count) = 8 * (bytes * (first + count)) :=
      Nat.mul_assoc 8 bytes (first + count)
    rw [if_pos same, Image.getLsbD_setLanes _ positive _ _ _ _ (by omega), if_neg (by omega),
      same]
  · rw [if_neg same]

end RegisterFile

end LaneLift
