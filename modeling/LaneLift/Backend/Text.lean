import LaneLift.Backend.Function
import LaneLift.Float.Text
import LaneLift.Text.Hexadecimal

/-!
# Text of backend functions

The text is Cranelift IR: a header with the number and the calling convention
of the function, and one block with the state pointer as its parameter and one
line per instruction. Behind an instruction the constants among its
operands are repeated in a comment.
-/

namespace LaneLift.Backend

inductive Convention where
  | systemV
  | fast
  deriving DecidableEq, Repr

def Convention.name : Convention → String
  | .systemV => "system_v"
  | .fast => "fast"

/-- The text of an immediate: decimal below ten thousand and for negative
numbers, otherwise hexadecimal in groups of four digits. -/
def immediateText (immediate : BitVec 64) : String :=
  if immediate.toInt < 10000 then
    toString immediate.toInt
  else
    "0x" ++ Hexadecimal.grouped immediate.toNat

/-- The text of an offset to the state pointer; it always has a sign, and an
offset of zero is left out. -/
def offsetText (offset : BitVec 32) : String :=
  let distance := offset.toInt.natAbs
  if distance = 0 then
    ""
  else
    (if offset.toInt < 0 then "-" else "+") ++
      if distance < 10000 then toString distance else "0x" ++ Hexadecimal.grouped distance

def valueText (value : Nat) : String := "v" ++ toString value

namespace Instruction

/-- The text of the constant that an instruction makes. An integer constant is
shown with the sign of its own type if that is narrower than the immediate. -/
def constantText? : Instruction → Option String
  | .iconst type immediate =>
      some (immediateText ((immediate.setWidth type.width).signExtend 64))
  | .f32const pattern => some (FloatFormat.single.text pattern)
  | .f64const pattern => some (FloatFormat.double.text pattern)
  | _ => none

def text (instruction : Instruction) : String :=
  let constant := instruction.constantText?.getD ""
  match instruction with
  | .load offset =>
      "load.i8x16 notrap aligned " ++ valueText statePointer ++ offsetText offset
  | .store value offset =>
      "store notrap aligned " ++ valueText value ++ ", " ++ valueText statePointer ++
        offsetText offset
  | .bitcast order type argument =>
      "bitcast." ++ type.name ++ " " ++ order.name ++ " " ++ valueText argument
  | .extractLane vector lane => "extractlane " ++ valueText vector ++ ", " ++ toString lane
  | .insertLane vector value lane =>
      "insertlane " ++ valueText vector ++ ", " ++ valueText value ++ ", " ++ toString lane
  | .iconst type _ => "iconst." ++ type.name ++ " " ++ constant
  | .f32const _ => "f32const " ++ constant
  | .f64const _ => "f64const " ++ constant
  | .sextend type argument => "sextend." ++ type.name ++ " " ++ valueText argument
  | .uextend type argument => "uextend." ++ type.name ++ " " ++ valueText argument
  | .ireduce type argument => "ireduce." ++ type.name ++ " " ++ valueText argument
  | .unary opcode argument => opcode.name ++ " " ++ valueText argument
  | .binary opcode left right =>
      opcode.name ++ " " ++ valueText left ++ ", " ++ valueText right
  | .leave => "return"

end Instruction

namespace Function

/-- The constants among the operands of an instruction, as a comment. -/
def comment (function : Function) (instruction : Instruction) : String :=
  let constants := instruction.operands.filterMap fun value =>
    ((function.definition? value).bind Instruction.constantText?).map fun text =>
      valueText value ++ " = " ++ text
  if constants.isEmpty then "" else "  ; " ++ ", ".intercalate constants

def line (function : Function) (entry : Entry) : String :=
  "    " ++ (match entry.result with
    | some value => valueText value ++ " = "
    | none => "") ++ entry.instruction.text ++ function.comment entry.instruction ++ "\n"

def text (function : Function) (number : Nat) (convention : Convention) : String :=
  "function u0:" ++ toString number ++ "(i64) " ++ convention.name ++ " \x7b\nblock0(" ++
    valueText Instruction.statePointer ++ ": i64):\n" ++
    String.join (function.entries.toList.map function.line) ++ "\x7d\n"

end Function

end LaneLift.Backend
