/-!
# Modified immediates

An Advanced SIMD immediate is eight bits and a mode. Expanding it gives one
element, which the instruction repeats over its destination.
-/

namespace LaneLift.Guest

/-- One element of `2 ^ size` bytes. -/
structure ExpandedImmediate where
  element : BitVec 64
  size : Nat
  deriving DecidableEq, Repr

/-- Every bit of a byte widened to a byte of ones or zeros. -/
def spreadBits (byte : BitVec 8) : BitVec 64 :=
  (List.range 8).foldl (fun spread bit =>
    if byte.getLsbD bit then spread ||| 0xff#64 <<< (8 * bit) else spread) 0

/-- The single-precision number `a:NOT(b):bbbbb:cdefgh:Zeros(19)` of a byte
`abcdefgh`. -/
def floatImmediate (byte : BitVec 8) : BitVec 32 :=
  byte.extractLsb' 7 1 ++ ~~~byte.extractLsb' 6 1 ++ (byte.extractLsb' 6 1).replicate 5 ++
    byte.extractLsb' 0 6 ++ 0#19

/-- Expand a modified immediate. The upper bits of `cmode` choose a shifted
byte in a 32-bit or 16-bit element, or a byte followed by ones; the last modes
are a plain byte, spread bits, and a single-precision number. Mode 15 with
`op` set is undefined in the architecture and expands as the number. -/
def expandImmediate (cmode op imm8 : Nat) : ExpandedImmediate :=
  let byte := BitVec.ofNat 8 imm8
  let wide := byte.setWidth 64
  let mode := cmode / 2
  if mode < 4 then
    ⟨wide <<< (8 * mode), 2⟩
  else if mode < 6 then
    ⟨wide <<< (8 * (mode % 2)), 1⟩
  else if mode = 6 then
    if cmode % 2 = 0 then ⟨wide <<< 8 ||| 0xff, 2⟩ else ⟨wide <<< 16 ||| 0xffff, 2⟩
  else if cmode % 2 ≠ 0 then
    ⟨(floatImmediate byte).setWidth 64, 2⟩
  else if op = 0 then
    ⟨wide, 0⟩
  else
    ⟨spreadBits byte, 3⟩

example : expandImmediate 0b1010 0 0xab = ⟨0xab00, 1⟩ := by decide
example : expandImmediate 0b1101 0 0xab = ⟨0xabffff, 2⟩ := by decide
example : expandImmediate 0b1110 1 0b10000001 = ⟨0xff000000000000ff, 3⟩ := by decide
example : expandImmediate 0b1111 0 0x70 = ⟨0x3f800000, 2⟩ := by decide

end LaneLift.Guest
