import LaneLift.Proofs.Lane.Numbering

/-!
# Banks read and lanes inserted

What entries do with banks and images: which banks they read, and which lanes they insert one
after another into an image. Neither depends on where the entries stand.
-/

namespace LaneLift.Lane

def Instruction.readBank? : Instruction → Option Nat
  | .getBank bank => some bank
  | _ => none

def banksRead (entries : List Entry) : List Nat :=
  entries.filterMap fun entry => entry.instruction.readBank?

def Lacks (opcode : Opcode) (entries : List Entry) : Prop :=
  ∀ entry ∈ entries, entry.instruction.opcode ≠ opcode

/-- Entries insert lanes of a type, the first into an image and each other one into what the one
before it has made. The lanes are listed in order; the last insertion makes the last image. -/
inductive Inserts (type : ScalarType) :
    (image : Nat) → List Entry → (lanes : List Nat) → (last : Nat) → Prop
  | nil {image : Nat} : Inserts type image [] [] image
  | skip {image last : Nat} {entry : Entry} {rest : List Entry} {lanes : List Nat} :
      entry.instruction.opcode ≠ .insertLane →
      Inserts type image rest lanes last → Inserts type image (entry :: rest) lanes last
  | insert {image value lane made last : Nat} {rest : List Entry} {lanes : List Nat} :
      Inserts type made rest lanes last →
      Inserts type image (⟨.insertLane (.scalar type) image value lane, some made⟩ :: rest)
        (lane :: lanes) last

/-! ## Banks -/

theorem banksRead_append (first second : List Entry) :
    banksRead (first ++ second) = banksRead first ++ banksRead second :=
  List.filterMap_append

theorem banksRead_entriesFrom (count : Nat) (code : Code) :
    banksRead (code.entriesFrom count) = code.filterMap Instruction.readBank? := by
  conv => rhs; rw [← Code.map_instruction_entriesFrom count code, List.filterMap_map]
  rfl

theorem banksRead_shift (values : Nat) (entries : List Entry) :
    banksRead (entries.map (Entry.shift values)) = banksRead entries := by
  rw [banksRead, List.filterMap_map]
  congr 1
  funext entry
  rcases entry with ⟨instruction, result⟩
  cases instruction <;> rfl

theorem banksRead_of_lacks {entries : List Entry} (lacks : Lacks .getBank entries) :
    banksRead entries = [] := by
  rw [banksRead, List.filterMap_eq_nil_iff]
  rintro ⟨instruction, result⟩ member
  cases instruction with
  | getBank bank => exact absurd rfl (lacks _ member)
  | _ => rfl

/-! ## Opcodes -/

namespace Lacks

variable {opcode : Opcode} {first second : List Entry} {code : Code} {count : Nat}

theorem nil (opcode : Opcode) : Lacks opcode [] :=
  fun _ member => absurd member List.not_mem_nil

theorem cons {entry : Entry} (other : entry.instruction.opcode ≠ opcode)
    (lacks : Lacks opcode first) : Lacks opcode (entry :: first) :=
  List.forall_mem_cons.mpr ⟨other, lacks⟩

theorem append (firstLacks : Lacks opcode first) (secondLacks : Lacks opcode second) :
    Lacks opcode (first ++ second) :=
  fun entry member => (List.mem_append.mp member).elim (firstLacks entry) (secondLacks entry)

theorem shift (values : Nat) (lacks : Lacks opcode first) :
    Lacks opcode (first.map (Entry.shift values)) := by
  intro entry member
  rcases List.mem_map.mp member with ⟨inner, isInner, rfl⟩
  rw [Entry.shift, Instruction.opcode_rename]
  exact lacks inner isInner

theorem entriesFrom (lacks : ∀ instruction ∈ code, instruction.opcode ≠ opcode) :
    Lacks opcode (code.entriesFrom count) :=
  fun _ member => lacks _ (Code.instruction_of_mem_entriesFrom member)

end Lacks

/-! ## Lanes -/

namespace Inserts

variable {type : ScalarType} {image middle last : Nat} {first second : List Entry}
  {lanes others : List Nat}

theorem of_lacks (lacks : Lacks .insertLane first) : Inserts type image first [] image := by
  induction first with
  | nil => exact .nil
  | cons entry rest induction =>
      rcases List.forall_mem_cons.mp lacks with ⟨other, others⟩
      exact .skip other (induction others)

theorem append (inserts : Inserts type image first lanes middle)
    (behind : Inserts type middle second others last) :
    Inserts type image (first ++ second) (lanes ++ others) last := by
  induction inserts with
  | nil => exact behind
  | skip other _ induction => exact .skip other (induction behind)
  | insert _ induction => exact .insert (induction behind)

theorem shift (values : Nat) (inserts : Inserts type image first lanes last) :
    Inserts type (image + values) (first.map (Entry.shift values)) lanes (last + values) := by
  induction inserts with
  | nil => exact .nil
  | @skip image last entry rest lanes other _ induction =>
      refine .skip ?_ induction
      rw [Entry.shift, Instruction.opcode_rename]
      exact other
  | insert _ induction => exact .insert induction

end Inserts

end LaneLift.Lane
