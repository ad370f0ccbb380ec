import LaneLift.Backend.Function
import LaneLift.Proofs.Lane.Admissible
import LaneLift.Proofs.Lane.Arithmetic
import LaneLift.Proofs.Register.Memory

/-!
# What backend code does

The backend itself stands outside of this library. What is relied on is its
documented behaviour on a little-endian machine: a semantics gives the effect of
every instruction on the values made so far and on the memory, and it is
documented if the instructions do what is written here whenever their operands
have the types required. Nothing is known of it otherwise.
-/

namespace LaneLift.Backend

open Lane (Opcode ScalarType)

/-! ## Memory -/

abbrev Memory := BitVec 64 → BitVec 8

namespace Memory

def load (memory : Memory) (address : BitVec 64) : Image :=
  littleEndian 128 ((List.range 16).map fun index => memory (address + BitVec.ofNat 64 index))

def store (memory : Memory) (address : BitVec 64) (content : Image) : Memory :=
  fun other =>
    if (other - address).toNat < 16 then content.byte (other - address).toNat else memory other

def ofRegisters (pointer : BitVec 64) (registers : RegisterFile) : Memory :=
  fun address => registers.byte (address - pointer).toNat

def Holds (memory : Memory) (pointer : BitVec 64) (registers : RegisterFile) : Prop :=
  ∀ offset < 256, memory (pointer + BitVec.ofNat 64 offset) = registers.byte offset

end Memory

theorem signExtend_bankOffset {bank : Nat} (inside : bank < bankCount) :
    (Instruction.bankOffset bank).signExtend 64 = BitVec.ofNat 64 (16 * bank) := by
  have all : ∀ bank : Fin bankCount,
      (Instruction.bankOffset bank).signExtend 64 = BitVec.ofNat 64 (16 * bank) := by
    decide
  exact all ⟨bank, inside⟩

namespace Memory

variable {memory : Memory} {pointer : BitVec 64} {registers : RegisterFile}

theorem toNat_add_sub (pointer : BitVec 64) {offset : Nat} (inside : offset < 256) :
    (pointer + BitVec.ofNat 64 offset - pointer).toNat = offset := by
  rw [BitVec.add_comm, BitVec.add_sub_cancel, BitVec.toNat_ofNat]
  omega

theorem holds_ofRegisters (pointer : BitVec 64) (registers : RegisterFile) :
    (ofRegisters pointer registers).Holds pointer registers := by
  intro offset inside
  rw [ofRegisters, toNat_add_sub pointer inside]

theorem Holds.load (holds : memory.Holds pointer registers) {bank : Nat}
    (inside : bank < bankCount) :
    memory.load (pointer + (Instruction.bankOffset bank).signExtend 64) =
      registers.image bank := by
  have small : bank < 16 := inside
  apply BitVec.eq_of_getLsbD_eq
  intro bit insideImage
  have listed : bit / 8 < 16 := by omega
  have reached : 16 * bank + bit / 8 < 256 := by omega
  have sameBank : (16 * bank + bit / 8) / 16 = bank := by omega
  have sameBit : 8 * ((16 * bank + bit / 8) % 16) + bit % 8 = bit := by omega
  have byte := holds (16 * bank + bit / 8) reached
  rw [BitVec.ofNat_add, ← BitVec.add_assoc, ← signExtend_bankOffset inside] at byte
  rw [Memory.load, getLsbD_littleEndian]
  simp only [insideImage, decide_true, Bool.true_and, List.getD_eq_getElem?_getD,
    List.getElem?_map, List.getElem?_range listed, Option.map_some, Option.getD_some]
  rw [byte, RegisterFile.getLsbD_byte, sameBank, sameBit]
  simp [Nat.mod_lt]

theorem toNat_sub_bank {address : BitVec 64} {bank : Nat} (inside : bank < bankCount) :
    (address - (pointer + (Instruction.bankOffset bank).signExtend 64)).toNat =
      if 16 * bank ≤ (address - pointer).toNat then (address - pointer).toNat - 16 * bank
      else 2 ^ 64 + (address - pointer).toNat - 16 * bank := by
  have small : bank < 16 := inside
  have distance : address - (pointer + (Instruction.bankOffset bank).signExtend 64) =
      (address - pointer) - BitVec.ofNat 64 (16 * bank) := by
    rw [signExtend_bankOffset inside, BitVec.sub_sub]
  have reduced : 16 * bank % 2 ^ 64 = 16 * bank := Nat.mod_eq_of_lt (by omega)
  rw [distance, BitVec.toNat_sub, BitVec.toNat_ofNat, reduced]
  split <;> omega

theorem Holds.store (holds : memory.Holds pointer registers) (bank : Fin bankCount)
    (content : Image) :
    (memory.store (pointer + (Instruction.bankOffset bank).signExtend 64) content).Holds pointer
      (registers.setBank bank content) := by
  intro offset inside
  have distance := toNat_add_sub pointer inside
  have insideBank : bank.val < 16 := bank.isLt
  rw [Memory.store, toNat_sub_bank bank.isLt, distance, RegisterFile.byte,
    RegisterFile.image_setBank]
  by_cases covered : bank.val = offset / 16
  · have reached : 16 * bank.val ≤ offset := by omega
    have sameByte : offset - 16 * bank.val = offset % 16 := by omega
    have within : offset % 16 < 16 := by omega
    rw [if_pos reached, sameByte, if_pos within, if_pos covered]
  · have unreached : ¬(if 16 * bank.val ≤ offset then offset - 16 * bank.val
        else 2 ^ 64 + offset - 16 * bank.val) < 16 := by
      split <;> omega
    rw [if_neg covered, if_neg unreached]
    exact holds offset inside

theorem store_outside {address : BitVec 64} {bank : Nat} (inside : bank < bankCount)
    (outside : 256 ≤ (address - pointer).toNat) (content : Image) :
    memory.store (pointer + (Instruction.bankOffset bank).signExtend 64) content address =
      memory address := by
  have small : bank < 16 := inside
  have reached : 16 * bank ≤ (address - pointer).toNat := by omega
  rw [store, toNat_sub_bank inside, if_pos reached, if_neg (by omega)]

end Memory

/-! ## Effects -/

inductive Value where
  | scalar (type : ScalarType) (pattern : BitVec type.width)
  | vector (lane : ScalarType) (content : Image)
  deriving DecidableEq, Repr

def Value.type : Value → MachineType
  | .scalar type _ => .scalar type
  | .vector lane _ => .vector lane

abbrev Values := Nat → Option Value

inductive Effect where
  | make (value : Value)
  | write (address : BitVec 64) (content : Image)
  | leave
  deriving DecidableEq, Repr

abbrev Semantics := Values → Memory → Instruction → Option Effect

variable [FloatArithmetic]

/-- The instructions do what the documentation of the backend says. Vectors keep
their bytes when they are seen as other lanes, integer operations wrap around in
the width of their operands, and the sign of a float is one bit. -/
structure Documented (semantics : Semantics) : Prop where
  load {values : Values} {memory : Memory} {pointer : BitVec 64} {offset : BitVec 32} :
    values Instruction.statePointer = some (.scalar .i64 pointer) →
    semantics values memory (.load offset) =
      some (.make (.vector .i8 (memory.load (pointer + offset.signExtend 64))))
  store {values : Values} {memory : Memory} {pointer : BitVec 64} {offset : BitVec 32}
      {value : Nat} {lane : ScalarType} {content : Image} :
    values Instruction.statePointer = some (.scalar .i64 pointer) →
    values value = some (.vector lane content) →
    semantics values memory (.store value offset) =
      some (.write (pointer + offset.signExtend 64) content)
  bitcast {values : Values} {memory : Memory} {lane own : ScalarType} {argument : Nat}
      {content : Image} :
    values argument = some (.vector own content) →
    semantics values memory (.bitcast .little (.vector lane) argument) =
      some (.make (.vector lane content))
  extractLane {values : Values} {memory : Memory} {type : ScalarType} {vector lane : Nat}
      {content : Image} :
    values vector = some (.vector type content) → lane < type.lanesPerBank →
    semantics values memory (.extractLane vector lane) =
      some (.make (.scalar type (content.lane type.width lane)))
  insertLane {values : Values} {memory : Memory} {type : ScalarType} {vector value lane : Nat}
      {content : Image} {pattern : BitVec type.width} :
    values vector = some (.vector type content) → values value = some (.scalar type pattern) →
    lane < type.lanesPerBank →
    semantics values memory (.insertLane vector value lane) =
      some (.make (.vector type (content.setLane lane pattern)))
  iconst {values : Values} {memory : Memory} {type : ScalarType} {immediate : BitVec 64} :
    type.isInteger = true →
    semantics values memory (.iconst (.scalar type) immediate) =
      some (.make (.scalar type (immediate.setWidth type.width)))
  f32const {values : Values} {memory : Memory} {pattern : BitVec 32} :
    semantics values memory (.f32const pattern) = some (.make (.scalar .f32 pattern))
  f64const {values : Values} {memory : Memory} {pattern : BitVec 64} :
    semantics values memory (.f64const pattern) = some (.make (.scalar .f64 pattern))
  sextend {values : Values} {memory : Memory} {type own : ScalarType} {argument : Nat}
      {pattern : BitVec own.width} :
    values argument = some (.scalar own pattern) → own.isInteger = true →
    type.isInteger = true → own.width < type.width →
    semantics values memory (.sextend (.scalar type) argument) =
      some (.make (.scalar type (pattern.signExtend type.width)))
  uextend {values : Values} {memory : Memory} {type own : ScalarType} {argument : Nat}
      {pattern : BitVec own.width} :
    values argument = some (.scalar own pattern) → own.isInteger = true →
    type.isInteger = true → own.width < type.width →
    semantics values memory (.uextend (.scalar type) argument) =
      some (.make (.scalar type (pattern.setWidth type.width)))
  ireduce {values : Values} {memory : Memory} {type own : ScalarType} {argument : Nat}
      {pattern : BitVec own.width} :
    values argument = some (.scalar own pattern) → own.isInteger = true →
    type.isInteger = true → type.width < own.width →
    semantics values memory (.ireduce (.scalar type) argument) =
      some (.make (.scalar type (pattern.setWidth type.width)))
  integerUnary {values : Values} {memory : Memory} {opcode : Opcode} {type : ScalarType}
      {argument : Nat} {x made : BitVec type.width} :
    values argument = some (.scalar type x) → type.isInteger = true →
    opcode.wrappingUnary? x = some made →
    semantics values memory (.unary opcode argument) = some (.make (.scalar type made))
  integerBinary {values : Values} {memory : Memory} {opcode : Opcode} {type : ScalarType}
      {left right : Nat} {x y made : BitVec type.width} :
    values left = some (.scalar type x) → values right = some (.scalar type y) →
    type.isInteger = true → opcode.wrappingBinary? x y = some made →
    semantics values memory (.binary opcode left right) = some (.make (.scalar type made))
  fneg {values : Values} {memory : Memory} {type : ScalarType} {argument : Nat}
      {x : BitVec type.width} :
    values argument = some (.scalar type x) → type.isFloat = true →
    semantics values memory (.unary .fneg argument) =
      some (.make (.scalar type (x ^^^ BitVec.twoPow type.width (type.width - 1))))
  fabs {values : Values} {memory : Memory} {type : ScalarType} {argument : Nat}
      {x : BitVec type.width} :
    values argument = some (.scalar type x) → type.isFloat = true →
    semantics values memory (.unary .fabs argument) =
      some (.make (.scalar type (x &&& ~~~BitVec.twoPow type.width (type.width - 1))))
  sqrt {values : Values} {memory : Memory} {type : ScalarType} {argument : Nat}
      {x made : BitVec type.width} :
    values argument = some (.scalar type x) → type.isFloat = true →
    type.unary? .sqrt x = some made →
    semantics values memory (.unary .sqrt argument) = some (.make (.scalar type made))
  floatBinary {values : Values} {memory : Memory} {opcode : Opcode} {type : ScalarType}
      {left right : Nat} {x y made : BitVec type.width} :
    values left = some (.scalar type x) → values right = some (.scalar type y) →
    type.isFloat = true → type.binary? opcode x y = some made →
    semantics values memory (.binary opcode left right) = some (.make (.scalar type made))
  leave {values : Values} {memory : Memory} : semantics values memory .leave = some .leave

/-! ## A documented semantics -/

def reference : Semantics := fun values memory instruction =>
  match instruction with
  | .load offset =>
      match values Instruction.statePointer with
      | some (.scalar .i64 pointer) =>
          some (.make (.vector .i8 (memory.load (pointer + offset.signExtend 64))))
      | _ => none
  | .store value offset =>
      match values Instruction.statePointer, values value with
      | some (.scalar .i64 pointer), some (.vector _ content) =>
          some (.write (pointer + offset.signExtend 64) content)
      | _, _ => none
  | .bitcast .little type argument =>
      match type, values argument with
      | .vector lane, some (.vector _ content) => some (.make (.vector lane content))
      | .scalar type, some (.scalar _ pattern) =>
          some (.make (.scalar type (pattern.setWidth type.width)))
      | _, _ => none
  | .extractLane vector lane =>
      match values vector with
      | some (.vector type content) =>
          some (.make (.scalar type (content.lane type.width lane)))
      | _ => none
  | .insertLane vector value lane =>
      match values vector, values value with
      | some (.vector type content), some (.scalar _ pattern) =>
          some (.make (.vector type (content.setLane lane (pattern.setWidth type.width))))
      | _, _ => none
  | .iconst type immediate =>
      some (.make (.scalar type.lane (immediate.setWidth type.lane.width)))
  | .f32const pattern => some (.make (.scalar .f32 pattern))
  | .f64const pattern => some (.make (.scalar .f64 pattern))
  | .sextend type argument =>
      match values argument with
      | some (.scalar _ pattern) =>
          some (.make (.scalar type.lane (pattern.signExtend type.lane.width)))
      | _ => none
  | .uextend type argument | .ireduce type argument =>
      match values argument with
      | some (.scalar _ pattern) =>
          some (.make (.scalar type.lane (pattern.setWidth type.lane.width)))
      | _ => none
  | .unary opcode argument =>
      match values argument with
      | some (.scalar type x) =>
          (type.unary? opcode x).map fun made => .make (.scalar type made)
      | _ => none
  | .binary opcode left right =>
      match values left, values right with
      | some (.scalar type x), some (.scalar _ y) =>
          (type.binary? opcode x (y.setWidth type.width)).map fun made =>
            .make (.scalar type made)
      | _, _ => none
  | .leave => some .leave
  | .bitcast .big _ _ => none

theorem documented_reference : Documented reference where
  load pointer := by simp only [reference, pointer]
  store pointer value := by simp only [reference, pointer, value]
  bitcast argument := by simp only [reference, argument]
  extractLane vector _ := by simp only [reference, vector]
  insertLane vector value _ := by simp only [reference, vector, value, BitVec.setWidth_eq]
  iconst _ := rfl
  f32const := rfl
  f64const := rfl
  sextend argument _ _ _ := by simp only [reference, argument]; rfl
  uextend argument _ _ _ := by simp only [reference, argument]; rfl
  ireduce argument _ _ _ := by simp only [reference, argument]; rfl
  integerUnary argument integer made := by
    simp only [reference, argument, Lane.ScalarType.unary?_eq_wrapping integer, made,
      Option.map_some]
  integerBinary left right integer made := by
    simp only [reference, left, right, BitVec.setWidth_eq,
      Lane.ScalarType.binary?_eq_wrapping integer, made, Option.map_some]
  fneg {values memory type argument x} found float := by
    simp only [reference, found]
    cases type <;> first | rfl | cases float
  fabs {values memory type argument x} found float := by
    simp only [reference, found]
    cases type <;> first | rfl | cases float
  sqrt argument _ made := by simp only [reference, argument, made, Option.map_some]
  floatBinary left right _ made := by
    simp only [reference, left, right, BitVec.setWidth_eq, made, Option.map_some]
  leave := rfl

/-! ## Execution -/

structure State where
  values : Values
  memory : Memory

def State.start (memory : Memory) (pointer : BitVec 64) : State where
  values number := if number = Instruction.statePointer then some (.scalar .i64 pointer) else none
  memory := memory

def State.define (state : State) (number : Nat) (value : Value) : State where
  values other := if other = number then some value else state.values other
  memory := state.memory

def Entry.execute? (semantics : Semantics) (state : State) (entry : Entry) : Option State :=
  match semantics state.values state.memory entry.instruction, entry.result with
  | some (.make value), some number => some (state.define number value)
  | some (.write address content), none =>
      some { state with memory := state.memory.store address content }
  | some .leave, none => some state
  | _, _ => none

def Function.execute? (semantics : Semantics) (function : Function) (state : State) :
    Option State :=
  function.entries.toList.foldlM (Entry.execute? semantics) state

theorem Function.execute?_close {semantics : Semantics} (documented : Documented semantics)
    (function : Function) (state : State) :
    function.close.execute? semantics state = function.execute? semantics state := by
  rw [execute?, entries_close, List.foldlM_append, ← execute?]
  simp [Entry.execute?, documented.leave]

end LaneLift.Backend
