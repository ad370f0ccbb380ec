import LaneLift.Register.Image

/-!
# The vector register file

Sixteen banks, each holding an image. Reading and writing through numbered
lanes, `S` registers and `D` registers touches one bank; a bank past the last
or a lane past the end of its bank has no content.
-/

namespace LaneLift

@[reducible] def bankCount : Nat := 16

structure RegisterFile where
  banks : Vector Image bankCount
  deriving DecidableEq

namespace RegisterFile

def zero : RegisterFile :=
  ⟨Vector.replicate bankCount 0⟩

def bank? (file : RegisterFile) (bank : Nat) : Option Image :=
  file.banks[bank]?

def setBank (file : RegisterFile) (bank : Fin bankCount) (image : Image) : RegisterFile :=
  ⟨file.banks.set bank image⟩

/-- As `setBank`, for a bank number that may lie outside the file. -/
def setBank? (file : RegisterFile) (bank : Nat) (image : Image) : Option RegisterFile :=
  if inside : bank < bankCount then some (file.setBank ⟨bank, inside⟩ image) else none

/-- Lane `index` of bank `bank`, viewed as lanes of `width` bits. -/
def lane? (file : RegisterFile) (bank width index : Nat) : Option (BitVec width) :=
  if width * index + width ≤ 128 then
    (file.bank? bank).map fun image => image.lane width index
  else
    none

def setLane? (file : RegisterFile) (bank : Nat) {width : Nat} (index : Nat)
    (value : BitVec width) : Option RegisterFile :=
  if width * index + width ≤ 128 then
    (file.bank? bank).bind fun image => file.setBank? bank (image.setLane index value)
  else
    none

/-- All lanes of bank `bank`, viewed as lanes of `width` bits. -/
def lanes? (file : RegisterFile) (bank width : Nat) : Option (List (BitVec width)) :=
  (List.range (128 / width)).mapM fun index => file.lane? bank width index

def single? (file : RegisterFile) (number : Nat) : Option (BitVec 32) :=
  file.lane? (number / 4) 32 (number % 4)

def setSingle? (file : RegisterFile) (number : Nat) (value : BitVec 32) :
    Option RegisterFile :=
  file.setLane? (number / 4) (number % 4) value

def double? (file : RegisterFile) (number : Nat) : Option (BitVec 64) :=
  file.lane? (number / 2) 64 (number % 2)

def setDouble? (file : RegisterFile) (number : Nat) (value : BitVec 64) :
    Option RegisterFile :=
  file.setLane? (number / 2) (number % 2) value

@[ext] theorem ext {left right : RegisterFile}
    (same : ∀ bank : Fin bankCount, left.banks[bank] = right.banks[bank]) : left = right := by
  cases left
  cases right
  congr 1
  apply Vector.ext
  intro bank inside
  exact same ⟨bank, inside⟩

theorem bank?_setBank (file : RegisterFile) (bank : Fin bankCount) (image : Image)
    (other : Nat) :
    (file.setBank bank image).bank? other =
      if bank.val = other then some image else file.bank? other := by
  simp [bank?, setBank, Vector.getElem?_set]

end RegisterFile

end LaneLift
