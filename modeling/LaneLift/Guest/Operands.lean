import LaneLift.Guest.Mnemonic
import LaneLift.Register.Class

/-!
# Operands of a decoded instruction

There are six operand layouts. Register numbers and codes are plain numbers:
decoding yields small ones, but whatever is defined on operands is defined for all.
-/

namespace LaneLift.Guest

/-- How the operands of an instruction class are laid out in the word. -/
inductive Layout where
  | bitfield
  | vectorPair
  | vectorTriple
  | scalarPair
  | scalarTriple
  | vectorImmediate
  deriving DecidableEq, Repr

def Layout.all : List Layout :=
  [.bitfield, .vectorPair, .vectorTriple, .scalarPair, .scalarTriple, .vectorImmediate]

structure Descriptor where
  mnemonic : Mnemonic
  layout : Layout
  deriving DecidableEq, Repr

/-- Operands of a bitfield instruction. Nothing orders the two bounds. -/
structure Bitfield where
  destination : Nat
  source : Nat
  msb : Nat
  lsb : Nat
  deriving DecidableEq, Repr

namespace Bitfield

/-- Ones over bits `0` to `msb` of the source. -/
def sourceMask (field : Bitfield) : BitVec 32 :=
  BitVec.allOnes 32 >>> (31 - field.msb)

/-- The source mask moved up to the field; bits pushed out are dropped. -/
def destinationMask (field : Bitfield) : BitVec 32 :=
  field.sourceMask <<< field.lsb

/-- Number of bits in the field, none when the bounds are inverted. -/
def width (field : Bitfield) : Nat :=
  field.msb + 1 - field.lsb

def widthMask (field : Bitfield) : BitVec 32 :=
  BitVec.allOnes 32 >>> (32 - field.width)

end Bitfield

structure VectorPair where
  destination : Nat
  source : Nat
  size : Nat
  /-- The bit that selects quadword registers. -/
  quad : Bool
  /-- The bit that selects the floating-point form. -/
  float : Bool
  registers : RegisterClass
  deriving DecidableEq, Repr

structure VectorTriple where
  destination : Nat
  left : Nat
  right : Nat
  /-- Element size code; of the floating-point forms only the low bit counts. -/
  size : Nat
  quad : Bool
  /-- The bit that selects unsigned comparison. -/
  unsigned : Bool
  registers : RegisterClass
  deriving DecidableEq, Repr

structure ScalarPair where
  destination : Nat
  source : Nat
  /-- Size code; `3` is double precision. -/
  size : Nat
  registers : RegisterClass
  deriving DecidableEq, Repr

structure ScalarTriple where
  destination : Nat
  left : Nat
  right : Nat
  /-- Size code; `3` is double precision. -/
  size : Nat
  registers : RegisterClass
  deriving DecidableEq, Repr

structure VectorImmediate where
  destination : Nat
  quad : Bool
  op : Nat
  cmode : Nat
  imm8 : Nat
  immediate : BitVec 64
  size : Nat
  registers : RegisterClass
  deriving DecidableEq, Repr

/-- Number of elements the immediate is repeated into. -/
def VectorImmediate.elements (operands : VectorImmediate) : Nat :=
  operands.registers.bytes >>> operands.size

inductive Operands where
  | bitfield (operands : Bitfield)
  | vectorPair (operands : VectorPair)
  | vectorTriple (operands : VectorTriple)
  | scalarPair (operands : ScalarPair)
  | scalarTriple (operands : ScalarTriple)
  | vectorImmediate (operands : VectorImmediate)
  deriving DecidableEq, Repr

def Operands.layout : Operands → Layout
  | .bitfield _ => .bitfield
  | .vectorPair _ => .vectorPair
  | .vectorTriple _ => .vectorTriple
  | .scalarPair _ => .scalarPair
  | .scalarTriple _ => .scalarTriple
  | .vectorImmediate _ => .vectorImmediate

abbrev Word := BitVec 32

abbrev Address := BitVec 64

structure Instruction where
  mnemonic : Mnemonic
  address : Address
  word : Word
  operands : Operands
  deriving DecidableEq, Repr

end LaneLift.Guest
