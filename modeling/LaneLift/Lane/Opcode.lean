/-!
# Opcodes of lane code
-/

namespace LaneLift.Lane

inductive Opcode where
  | getBank
  | setBank
  | extractLane
  | insertLane
  | iconst
  | f32const
  | f64const
  | sextend
  | uextend
  | iadd
  | isub
  | imul
  | smax
  | smin
  | umax
  | umin
  | band
  | bor
  | bxor
  | ineg
  | iabs
  | bnot
  | fadd
  | fsub
  | fmul
  | fdiv
  | fneg
  | fabs
  | sqrt
  deriving DecidableEq, Repr

namespace Opcode

/-- Every opcode, in the order of the listing. -/
def all : List Opcode :=
  [.getBank, .setBank, .extractLane, .insertLane, .iconst, .f32const, .f64const, .sextend,
    .uextend, .iadd, .isub, .imul, .smax, .smin, .umax, .umin, .band, .bor, .bxor, .ineg,
    .iabs, .bnot, .fadd, .fsub, .fmul, .fdiv, .fneg, .fabs, .sqrt]

def name : Opcode → String
  | .getBank => "get_bank"
  | .setBank => "set_bank"
  | .extractLane => "extractlane"
  | .insertLane => "insertlane"
  | .iconst => "iconst"
  | .f32const => "f32const"
  | .f64const => "f64const"
  | .sextend => "sextend"
  | .uextend => "uextend"
  | .iadd => "iadd"
  | .isub => "isub"
  | .imul => "imul"
  | .smax => "smax"
  | .smin => "smin"
  | .umax => "umax"
  | .umin => "umin"
  | .band => "band"
  | .bor => "bor"
  | .bxor => "bxor"
  | .ineg => "ineg"
  | .iabs => "iabs"
  | .bnot => "bnot"
  | .fadd => "fadd"
  | .fsub => "fsub"
  | .fmul => "fmul"
  | .fdiv => "fdiv"
  | .fneg => "fneg"
  | .fabs => "fabs"
  | .sqrt => "sqrt"

def isUnary : Opcode → Bool
  | .ineg | .iabs | .bnot | .fneg | .fabs | .sqrt => true
  | _ => false

def isBinary : Opcode → Bool
  | .iadd | .isub | .imul | .smax | .smin | .umax | .umin | .band | .bor | .bxor
  | .fadd | .fsub | .fmul | .fdiv => true
  | _ => false

theorem mem_all (opcode : Opcode) : opcode ∈ all := by
  cases opcode <;> decide

end Opcode

end LaneLift.Lane
