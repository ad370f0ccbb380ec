/-!
# Register images

The content of one bank is a 128-bit pattern, viewed as lanes of any width
that divides it. Lane zero is the least significant. Writing a lane keeps
every bit outside of it.
-/

namespace LaneLift

/-- The content of one bank. -/
abbrev Image := BitVec 128

namespace Image

/-- Lane `index` of the image viewed as lanes of `width` bits. -/
def lane (image : Image) (width index : Nat) : BitVec width :=
  image.extractLsb' (width * index) width

def setLane (image : Image) {width : Nat} (index : Nat) (value : BitVec width) : Image :=
  let covered := (BitVec.allOnes width).setWidth 128 <<< (width * index)
  image &&& ~~~covered ||| value.setWidth 128 <<< (width * index)

theorem getLsbD_setLane (image : Image) {width : Nat} (index : Nat) (value : BitVec width)
    (bit : Nat) :
    (image.setLane index value).getLsbD bit =
      if width * index ≤ bit ∧ bit < width * index + width then
        decide (bit < 128) && value.getLsbD (bit - width * index)
      else
        image.getLsbD bit := by
  by_cases inside : bit < 128
  · by_cases low : bit < width * index
    · have outside : ¬ (width * index ≤ bit) := by omega
      simp [setLane, inside, low, outside]
    · by_cases high : bit < width * index + width
      · have covered : bit - width * index < width := by omega
        have reached : width * index ≤ bit := by omega
        simp [setLane, inside, low, high, covered, reached]
      · have uncovered : ¬ (bit - width * index < width) := by omega
        have absent : value.getLsbD (bit - width * index) = false :=
          BitVec.getLsbD_of_ge value _ (by omega)
        simp [setLane, inside, low, high, uncovered, absent]
  · have reached : 128 ≤ bit := by omega
    rw [BitVec.getLsbD_of_ge _ bit reached, BitVec.getLsbD_of_ge image bit reached]
    simp [inside]

def byte (image : Image) (index : Nat) : BitVec 8 :=
  image.lane 8 index

/-- The image whose bytes are given, the least significant first; missing
bytes are zero and bytes past the sixteenth are dropped. -/
def ofBytes (bytes : List (BitVec 8)) : Image :=
  bytes.zipIdx.foldl (fun image (value, index) => image.setLane index value) 0

end Image

end LaneLift
