/-!
# Instruction classes

The classes of A32 instructions that the table lists: Advanced SIMD vector
instructions, VFP scalar instructions, and the two bitfield instructions.
-/

namespace LaneLift.Guest

/-- An instruction class. A trailing `I` marks the integer vector form, `V` the
floating-point vector form, and `S` the VFP scalar form. `vabsV` and `vnegV`
cover both vector forms. -/
inductive Mnemonic where
  | bfc
  | bfi
  | vabsS
  | vabsV
  | vaddI
  | vaddS
  | vaddV
  | vand
  | vdivS
  | veor
  | vmax
  | vmin
  | vmlaI
  | vmlaS
  | vmlaV
  | vmlsI
  | vmlsS
  | vmlsV
  | vmovI
  | vmulI
  | vmulS
  | vmulV
  | vnegS
  | vnegV
  | vorr
  | vsqrtS
  | vsubI
  | vsubS
  | vsubV
  deriving DecidableEq, Repr

namespace Mnemonic

def all : List Mnemonic :=
  [.bfc, .bfi, .vabsS, .vabsV, .vaddI, .vaddS, .vaddV, .vand, .vdivS, .veor, .vmax, .vmin,
    .vmlaI, .vmlaS, .vmlaV, .vmlsI, .vmlsS, .vmlsV, .vmovI, .vmulI, .vmulS, .vmulV, .vnegS,
    .vnegV, .vorr, .vsqrtS, .vsubI, .vsubS, .vsubV]

/-- The assembler spelling, without size qualifiers. -/
def name : Mnemonic → String
  | .bfc => "bfc"
  | .bfi => "bfi"
  | .vabsS | .vabsV => "vabs"
  | .vaddI | .vaddS | .vaddV => "vadd"
  | .vand => "vand"
  | .vdivS => "vdiv"
  | .veor => "veor"
  | .vmax => "vmax"
  | .vmin => "vmin"
  | .vmlaI | .vmlaS | .vmlaV => "vmla"
  | .vmlsI | .vmlsS | .vmlsV => "vmls"
  | .vmovI => "vmov"
  | .vmulI | .vmulS | .vmulV => "vmul"
  | .vnegS | .vnegV => "vneg"
  | .vorr => "vorr"
  | .vsqrtS => "vsqrt"
  | .vsubI | .vsubS | .vsubV => "vsub"

def isScalar : Mnemonic → Bool
  | .vabsS | .vaddS | .vdivS | .vmlaS | .vmlsS | .vmulS | .vnegS | .vsqrtS | .vsubS => true
  | _ => false

/-- Is this a bitfield instruction on general-purpose registers? -/
def isBitfield : Mnemonic → Bool
  | .bfc | .bfi => true
  | _ => false

def isVector (mnemonic : Mnemonic) : Bool :=
  !mnemonic.isScalar && !mnemonic.isBitfield

theorem mem_all (mnemonic : Mnemonic) : mnemonic ∈ all := by
  cases mnemonic <;> decide

end Mnemonic

end LaneLift.Guest
