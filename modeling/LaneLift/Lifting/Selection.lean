import LaneLift.Lifting.Form

/-!
# Planning an instruction

The class and the operands of an instruction choose a form and a body, or
nothing: bitfield instructions, classes in a layout that is not theirs, and the
immediate instructions that modify their destination have no plan.
-/

namespace LaneLift

namespace Lifting

open Guest (Mnemonic Operands ScalarPair ScalarTriple VectorImmediate VectorPair VectorTriple)

inductive Plan where
  | vector (form : VectorForm) (body : Body)
  | scalar (form : ScalarForm) (body : Body)
  deriving DecidableEq, Repr

/-- Emit a plan; every lane has the same body. -/
def Plan.emission : Plan → Emission
  | .vector form body => form.emission fun _ => body
  | .scalar form body => form.emission body

def pairPlan? (mnemonic : Mnemonic) (operands : VectorPair) : Option Plan :=
  match mnemonic with
  | .vabsV =>
      if operands.float then some (.vector (operands.unaryForm .float) (.unary .fabs))
      else some (.vector (operands.unaryForm .signed) (.unary .iabs))
  | .vnegV =>
      if operands.float then some (.vector (operands.unaryForm .float) (.unary .fneg))
      else some (.vector (operands.unaryForm .signed) (.unary .ineg))
  | _ => none

/-- Plan a vector instruction on two sources. Only minimum and maximum depend on
how integer lanes are extended; the others take them zero-extended. -/
def triplePlan? (mnemonic : Mnemonic) (operands : VectorTriple) : Option Plan :=
  match mnemonic with
  | .vaddI => some (.vector (operands.binaryForm .unsigned) (.binary .iadd))
  | .vsubI => some (.vector (operands.binaryForm .unsigned) (.binary .isub))
  | .vmulI => some (.vector (operands.binaryForm .unsigned) (.binary .imul))
  | .vmlaI => some (.vector (operands.ternaryForm .unsigned) (.accumulate .imul .iadd))
  | .vmlsI => some (.vector (operands.ternaryForm .unsigned) (.accumulate .imul .isub))
  | .vmax =>
      if operands.unsigned then some (.vector (operands.binaryForm .unsigned) (.binary .umax))
      else some (.vector (operands.binaryForm .signed) (.binary .smax))
  | .vmin =>
      if operands.unsigned then some (.vector (operands.binaryForm .unsigned) (.binary .umin))
      else some (.vector (operands.binaryForm .signed) (.binary .smin))
  | .vand => some (.vector (operands.binaryForm .unsigned) (.binary .band))
  | .vorr => some (.vector (operands.binaryForm .unsigned) (.binary .bor))
  | .veor => some (.vector (operands.binaryForm .unsigned) (.binary .bxor))
  | .vaddV => some (.vector (operands.binaryForm .float) (.binary .fadd))
  | .vsubV => some (.vector (operands.binaryForm .float) (.binary .fsub))
  | .vmulV => some (.vector (operands.binaryForm .float) (.binary .fmul))
  | .vmlaV => some (.vector (operands.ternaryForm .float) (.accumulate .fmul .fadd))
  | .vmlsV => some (.vector (operands.ternaryForm .float) (.accumulate .fmul .fsub))
  | _ => none

/-- Is this a mode that combines the immediate with the destination? -/
def modifiesDestination (cmode : Nat) : Bool :=
  cmode % 2 = 1 && cmode < 12

/-- Plan an immediate instruction. Below mode 14 the `op` bit asks for the
complement. -/
def immediatePlan? (mnemonic : Mnemonic) (operands : VectorImmediate) : Option Plan :=
  if mnemonic = .vmovI && !modifiesDestination operands.cmode then
    some (.vector operands.form
      (if operands.op ≠ 0 && operands.cmode < 14 then .unary .bnot else .operand))
  else
    none

def scalarPairPlan? (mnemonic : Mnemonic) (operands : ScalarPair) : Option Plan :=
  match mnemonic with
  | .vabsS => some (.scalar operands.unaryForm (.unary .fabs))
  | .vnegS => some (.scalar operands.unaryForm (.unary .fneg))
  | .vsqrtS => some (.scalar operands.unaryForm (.unary .sqrt))
  | _ => none

/-- Plan a VFP instruction on two sources. Products are rounded before they are
accumulated. -/
def scalarTriplePlan? (mnemonic : Mnemonic) (operands : ScalarTriple) : Option Plan :=
  match mnemonic with
  | .vaddS => some (.scalar operands.binaryForm (.binary .fadd))
  | .vsubS => some (.scalar operands.binaryForm (.binary .fsub))
  | .vmulS => some (.scalar operands.binaryForm (.binary .fmul))
  | .vdivS => some (.scalar operands.binaryForm (.binary .fdiv))
  | .vmlaS => some (.scalar operands.ternaryForm (.accumulate .fmul .fadd))
  | .vmlsS => some (.scalar operands.ternaryForm (.accumulate .fmul .fsub))
  | _ => none

def plan? (mnemonic : Mnemonic) : Operands → Option Plan
  | .bitfield _ => none
  | .vectorPair operands => pairPlan? mnemonic operands
  | .vectorTriple operands => triplePlan? mnemonic operands
  | .scalarPair operands => scalarPairPlan? mnemonic operands
  | .scalarTriple operands => scalarTriplePlan? mnemonic operands
  | .vectorImmediate operands => immediatePlan? mnemonic operands

end Lifting

open Lifting in
def Guest.Instruction.emission (instruction : Guest.Instruction) : Emission :=
  match plan? instruction.mnemonic instruction.operands with
  | some plan => plan.emission
  | none =>
      .refuse (.unsupportedInstruction instruction.address instruction.word instruction.mnemonic)

end LaneLift
