import LaneLift.Guest.Decode

/-!
# The instruction table

A row fixes some bits of the word. Rows are tried in order and the first one
whose fixed bits agree with the word wins. Advanced SIMD rows are the
unconditional encodings; VFP and bitfield rows have the condition `AL`.
-/

namespace LaneLift.Guest

structure Row where
  mask : Word
  value : Word
  descriptor : Descriptor
  deriving DecidableEq, Repr

def Row.matches (row : Row) (word : Word) : Bool :=
  word &&& row.mask == row.value

private def row (mask value : Word) (mnemonic : Mnemonic) (layout : Layout) : Row :=
  ⟨mask, value, ⟨mnemonic, layout⟩⟩

/-- All rows. Clearing a bitfield is inserting with source register 15, so it
comes first. -/
def table : List Row :=
  [ row 0xffe0007f 0xe7c0001f .bfc .bitfield,
    row 0xffe00070 0xe7c00010 .bfi .bitfield,
    row 0xff800f10 0xf2000800 .vaddI .vectorTriple,
    row 0xff800f10 0xf3000800 .vsubI .vectorTriple,
    row 0xff800f10 0xf2000900 .vmlaI .vectorTriple,
    row 0xff800f10 0xf3000900 .vmlsI .vectorTriple,
    row 0xff800f10 0xf2000910 .vmulI .vectorTriple,
    row 0xfe800f10 0xf2000600 .vmax .vectorTriple,
    row 0xfe800f10 0xf2000610 .vmin .vectorTriple,
    row 0xffb00f10 0xf2000110 .vand .vectorTriple,
    row 0xffb00f10 0xf2200110 .vorr .vectorTriple,
    row 0xffb00f10 0xf3000110 .veor .vectorTriple,
    row 0xffa00f10 0xf2000d00 .vaddV .vectorTriple,
    row 0xffa00f10 0xf2200d00 .vsubV .vectorTriple,
    row 0xffa00f10 0xf3000d10 .vmulV .vectorTriple,
    row 0xffa00f10 0xf2000d10 .vmlaV .vectorTriple,
    row 0xffa00f10 0xf2200d10 .vmlsV .vectorTriple,
    row 0xffb30b90 0xf3b10300 .vabsV .vectorPair,
    row 0xffb30b90 0xf3b10380 .vnegV .vectorPair,
    row 0xfeb80090 0xf2800010 .vmovI .vectorImmediate,
    row 0xffb00e50 0xee300a00 .vaddS .scalarTriple,
    row 0xffb00e50 0xee300a40 .vsubS .scalarTriple,
    row 0xffb00e50 0xee200a00 .vmulS .scalarTriple,
    row 0xffb00e50 0xee000a00 .vmlaS .scalarTriple,
    row 0xffb00e50 0xee000a40 .vmlsS .scalarTriple,
    row 0xffb00e50 0xee800a00 .vdivS .scalarTriple,
    row 0xffbf0ed0 0xeeb00ac0 .vabsS .scalarPair,
    row 0xffbf0ed0 0xeeb10a40 .vnegS .scalarPair,
    row 0xffbf0ed0 0xeeb10ac0 .vsqrtS .scalarPair ]

def matchingRows (word : Word) : List Nat :=
  (table.zipIdx.filter fun (row, _) => row.matches word).map Prod.snd

/-- The first of some rows that matches a word. -/
def firstMatch? (rows : List Row) (word : Word) : Option Row :=
  rows.find? fun row => row.matches word

def lookup? (word : Word) : Option Row :=
  firstMatch? table word

example : (lookup? 0xe7c75113).map (·.descriptor.mnemonic) = some .bfi := by decide
example : (lookup? 0xf2042d46).map (·.descriptor.mnemonic) = some .vaddV := by decide
example : lookup? 0xe1a00000 = none := by decide

end LaneLift.Guest
