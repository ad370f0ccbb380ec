import LaneLift.Backend.Function

/-!
# Checking backend functions

Each instruction makes demands on the types of its operands, and every operand
has to be made before it is used. The check goes through a function once, with
the types of the values made so far.
-/

namespace LaneLift.Backend

open Lane (Opcode)

namespace Instruction

/-- Does an arithmetic opcode apply to a type? Bitwise operations apply to every
type, the others to integers or to floats. -/
def applies (opcode : Opcode) (type : MachineType) : Bool :=
  match opcode with
  | .iadd | .isub | .imul | .smax | .smin | .umax | .umin | .ineg | .iabs => type.isInteger
  | .fadd | .fsub | .fmul | .fdiv | .fneg | .fabs | .sqrt => !type.isInteger
  | .band | .bor | .bxor | .bnot => true
  | _ => false

/-- Is `narrow` an integer type strictly narrower than the integer type `wide`? -/
def narrower (narrow wide : MachineType) : Bool :=
  match narrow.integer?, wide.integer? with
  | some narrow, some wide => narrow.width < wide.width
  | _, _ => false

def accepts (typeOf? : Nat → Option MachineType) : Instruction → Bool
  | .load _ => typeOf? statePointer = some (.scalar .i64)
  | .store value _ =>
      typeOf? statePointer = some (.scalar .i64) && typeOf? value = some .bytes
  | .bitcast _ type argument =>
      match typeOf? argument with
      | some own => own.width = type.width
      | none => false
  | .extractLane vector lane =>
      match typeOf? vector with
      | some (.vector element) => lane < element.lanesPerBank
      | _ => false
  | .insertLane vector value lane =>
      match typeOf? vector with
      | some (.vector element) =>
          lane < element.lanesPerBank && typeOf? value = some (.scalar element)
      | _ => false
  | .iconst type _ => type.integer?.isSome
  | .f32const _ | .f64const _ => true
  | .sextend type argument | .uextend type argument =>
      match typeOf? argument with
      | some own => narrower own type
      | none => false
  | .ireduce type argument =>
      match typeOf? argument with
      | some own => narrower type own
      | none => false
  | .unary opcode argument =>
      match typeOf? argument with
      | some own => opcode.isUnary && applies opcode own
      | none => false
  | .binary opcode left right =>
      match typeOf? left with
      | some own =>
          opcode.isBinary && applies opcode own && typeOf? right = some own
      | none => false
  | .leave => true

end Instruction

namespace Function

/-- The types of the values that the first entries make, the state pointer
included. -/
def typesBefore (function : Function) (made : Nat) (value : Nat) : Option MachineType :=
  if value < made then function.typeOf? value else none

/-- Check entries, before which `made` values have been made. -/
def checkEntries (function : Function) (made : Nat) : List Entry → Bool
  | [] => true
  | entry :: rest =>
      entry.instruction.accepts (function.typesBefore made) &&
        function.checkEntries (made + entry.result.toList.length) rest

def check (function : Function) : Bool :=
  function.checkEntries 1 function.entries.toList

end Function

end LaneLift.Backend
