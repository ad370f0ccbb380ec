import LaneLift.Lane.Function
import LaneLift.Text.Hexadecimal

/-!
# Text of lane code

One instruction per line between a header and a closing brace. A result stands
on the left; the type that an instruction is about follows its opcode as a
suffix.
-/

namespace LaneLift.Lane

def valueText (value : Nat) : String := "v" ++ toString value

def positionText (position : Nat) : String := "inst" ++ toString position

def bankText (bank : Nat) : String := "q" ++ toString bank

def Instruction.text (instruction : Instruction) : String :=
  instruction.opcode.name ++
    match instruction with
    | .getBank bank => " " ++ bankText bank
    | .setBank bank image => " " ++ bankText bank ++ ", " ++ valueText image
    | .extractLane type image lane =>
        "." ++ type.name ++ " " ++ valueText image ++ ", " ++ toString lane
    | .insertLane type image value lane =>
        "." ++ type.name ++ " " ++ valueText image ++ ", " ++ valueText value ++ ", " ++
          toString lane
    | .iconst type immediate => "." ++ type.name ++ " " ++ toString immediate.toInt
    | .f32const pattern => " 0x" ++ Hexadecimal.padded 8 pattern.toNat
    | .f64const pattern => " 0x" ++ Hexadecimal.padded 16 pattern.toNat
    | .extend _ type argument => "." ++ type.name ++ " " ++ valueText argument
    | .unary _ argument => " " ++ valueText argument
    | .binary _ left right => " " ++ valueText left ++ ", " ++ valueText right

def Entry.line (entry : Entry) : String :=
  "    " ++ (match entry.result with
    | some value => valueText value ++ " = "
    | none => "") ++ entry.instruction.text ++ "\n"

def Function.text (function : Function) : String :=
  "function %" ++ function.name ++ " \x7b\n" ++
    String.join (function.entries.toList.map Entry.line) ++ "\x7d\n"

end LaneLift.Lane
