/-!
# Register classes and where their registers lie

The vector register file is sixteen banks of 128 bits. An instruction names a
part of it by a class and a number: `S` registers are the quarters of the
first banks, `D` registers the halves, `Q` registers whole banks. A `Q`
register is numbered like the `D` register in its low half, so its number is
even and half of it is the bank.
-/

namespace LaneLift

/-- The width class under which a register operand is named. -/
inductive RegisterClass where
  /-- A 32-bit general-purpose register; not part of the vector file. -/
  | general32
  /-- A 64-bit pair of general-purpose registers; not part of the vector file. -/
  | general64
  | single
  | double
  | quad
  deriving DecidableEq, Repr

/-- A bank, and a position inside it counted in registers of one class. -/
structure Location where
  bank : Nat
  position : Nat
  deriving DecidableEq, Repr

namespace Location

def ofSingle (index : Nat) : Location := ⟨index / 4, index % 4⟩

def ofDouble (index : Nat) : Location := ⟨index / 2, index % 2⟩

def ofQuad (index : Nat) : Location := ⟨index / 2, 0⟩

end Location

namespace RegisterClass

/-- Every class, narrow to wide, the general-purpose ones first. -/
def all : List RegisterClass :=
  [.general32, .general64, .single, .double, .quad]

/-- The name used in messages and stored forms. -/
def name : RegisterClass → String
  | .general32 => "Int32"
  | .general64 => "Int64"
  | .single => "Simd32"
  | .double => "Simd64"
  | .quad => "Simd128"

def bytes : RegisterClass → Nat
  | .general32 | .single => 4
  | .general64 | .double => 8
  | .quad => 16

def isVector : RegisterClass → Bool
  | .single | .double | .quad => true
  | .general32 | .general64 => false

def ofVectorWidth? : Nat → Option RegisterClass
  | 32 => some .single
  | 64 => some .double
  | 128 => some .quad
  | _ => none

/-- Where register `index` of a class lies. General-purpose registers lie
outside the vector file. -/
def location? (registers : RegisterClass) (index : Nat) : Option Location :=
  match registers with
  | .quad => some (.ofQuad index)
  | .double => some (.ofDouble index)
  | .single => some (.ofSingle index)
  | .general32 | .general64 => none

example : quad.location? 6 = some ⟨3, 0⟩ := rfl
example : double.location? 7 = some ⟨3, 1⟩ := rfl
example : single.location? 13 = some ⟨3, 1⟩ := rfl

end RegisterClass

end LaneLift
