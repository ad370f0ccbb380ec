import LaneLift.Backend.MachineType
import LaneLift.Lane.Opcode

/-!
# Backend instructions

The backend keeps the register file in memory: bank `n` is the sixteen bytes at
offset `16 * n` from the state pointer, which is value zero. Banks are loaded
and stored whole; lanes are reached by reinterpreting the loaded bytes as a
vector of the lane type, little-endian.
-/

namespace LaneLift.Backend

open Lane (Opcode)

/-- The order in which the bytes of a value are seen as lanes. -/
inductive ByteOrder where
  | little
  | big
  deriving DecidableEq, Repr

def ByteOrder.name : ByteOrder → String
  | .little => "little"
  | .big => "big"

/-- One instruction; operands are numbers of backend values. -/
inductive Instruction where
  | load (offset : BitVec 32)
  | store (value : Nat) (offset : BitVec 32)
  /-- Keep the bits, change the type. -/
  | bitcast (order : ByteOrder) (type : MachineType) (argument : Nat)
  | extractLane (vector lane : Nat)
  | insertLane (vector value lane : Nat)
  /-- An integer constant, given by its low bits. -/
  | iconst (type : MachineType) (immediate : BitVec 64)
  | f32const (pattern : BitVec 32)
  | f64const (pattern : BitVec 64)
  | sextend (type : MachineType) (argument : Nat)
  | uextend (type : MachineType) (argument : Nat)
  /-- Keep the low bits of an integer. -/
  | ireduce (type : MachineType) (argument : Nat)
  | unary (opcode : Opcode) (argument : Nat)
  | binary (opcode : Opcode) (left right : Nat)
  /-- Return from the function. -/
  | leave
  deriving DecidableEq, Repr

namespace Instruction

@[reducible] def statePointer : Nat := 0

def operands : Instruction → List Nat
  | .load _ => [statePointer]
  | .store value _ => [value, statePointer]
  | .bitcast _ _ argument | .sextend _ argument | .uextend _ argument | .ireduce _ argument
  | .unary _ argument => [argument]
  | .extractLane vector _ => [vector]
  | .insertLane vector value _ => [vector, value]
  | .iconst _ _ | .f32const _ | .f64const _ | .leave => []
  | .binary _ left right => [left, right]

def bankOffset (bank : Nat) : BitVec 32 :=
  BitVec.ofNat 32 (16 * bank)

end Instruction

end LaneLift.Backend
