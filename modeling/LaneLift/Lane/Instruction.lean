import LaneLift.Lane.Opcode
import LaneLift.Lane.ValueType

/-!
# Instructions of lane code

Lane code is straight-line code over the register file: it reads whole banks,
takes lanes out of images and puts lanes back, computes on single lanes, and
commits whole banks. Operands are the numbers of values made before.

The extension and arithmetic forms carry their opcode, and any opcode can stand
there; one that does not fit is found when the instruction is run.
-/

namespace LaneLift.Lane

inductive Instruction where
  | getBank (bank : Nat)
  /-- Commit an image as the new content of a bank. -/
  | setBank (bank image : Nat)
  | extractLane (type : ValueType) (image lane : Nat)
  | insertLane (type : ValueType) (image value lane : Nat)
  /-- An integer constant, given by its low bits. -/
  | iconst (type : ValueType) (immediate : BitVec 64)
  | f32const (pattern : BitVec 32)
  | f64const (pattern : BitVec 64)
  | extend (opcode : Opcode) (type : ValueType) (argument : Nat)
  | unary (opcode : Opcode) (argument : Nat)
  | binary (opcode : Opcode) (left right : Nat)
  deriving DecidableEq, Repr

namespace Instruction

def opcode : Instruction → Opcode
  | .getBank _ => .getBank
  | .setBank _ _ => .setBank
  | .extractLane _ _ _ => .extractLane
  | .insertLane _ _ _ _ => .insertLane
  | .iconst _ _ => .iconst
  | .f32const _ => .f32const
  | .f64const _ => .f64const
  | .extend opcode _ _ | .unary opcode _ | .binary opcode _ _ => opcode

def operands : Instruction → List Nat
  | .getBank _ | .iconst _ _ | .f32const _ | .f64const _ => []
  | .setBank _ image => [image]
  | .extractLane _ image _ => [image]
  | .insertLane _ image value _ => [image, value]
  | .extend _ _ argument => [argument]
  | .unary _ argument => [argument]
  | .binary _ left right => [left, right]

def rename (names : Nat → Nat) : Instruction → Instruction
  | .getBank bank => .getBank bank
  | .setBank bank image => .setBank bank (names image)
  | .extractLane type image lane => .extractLane type (names image) lane
  | .insertLane type image value lane => .insertLane type (names image) (names value) lane
  | .iconst type immediate => .iconst type immediate
  | .f32const pattern => .f32const pattern
  | .f64const pattern => .f64const pattern
  | .extend opcode type argument => .extend opcode type (names argument)
  | .unary opcode argument => .unary opcode (names argument)
  | .binary opcode left right => .binary opcode (names left) (names right)

/-- Does the instruction make a value? Only a commit does not. -/
def makesValue : Instruction → Bool
  | .setBank _ _ => false
  | _ => true

/-- The type of the value made, given the types of the values before.
Arithmetic has the type of its first operand. -/
def resultType? (typeOf? : Nat → Option ValueType) : Instruction → Option ValueType
  | .getBank _ | .insertLane _ _ _ _ => some .image
  | .setBank _ _ => none
  | .extractLane type _ _ | .iconst type _ | .extend _ type _ => some type
  | .f32const _ => some (.scalar .f32)
  | .f64const _ => some (.scalar .f64)
  | .unary _ argument => typeOf? argument
  | .binary _ left _ => typeOf? left

@[simp] theorem opcode_rename (names : Nat → Nat) (instruction : Instruction) :
    (instruction.rename names).opcode = instruction.opcode := by
  cases instruction <;> rfl

@[simp] theorem makesValue_rename (names : Nat → Nat) (instruction : Instruction) :
    (instruction.rename names).makesValue = instruction.makesValue := by
  cases instruction <;> rfl

end Instruction

/-- A rule for the type of the value that an instruction makes, given the types
of the values before. Lane code has `Instruction.resultType?`; a code format that
lane code is brought to can have a rule of its own. -/
abbrev Typing := (Nat → Option ValueType) → Instruction → Option ValueType

end LaneLift.Lane
