import LaneLift.Guest.Table
import Mathlib.Algebra.Group.Nat.Defs
import Mathlib.Tactic.SplitIfs

/-!
# What decoding yields

Register numbers are below 32 and size codes below four, whatever the word, and
every class of instructions has one layout.
-/

namespace LaneLift.Guest

namespace Word

variable (word : Word)

theorem field_lt (offset width : Nat) : word.field offset width < 2 ^ width :=
  BitVec.isLt _

theorem doubleNumber_lt (low extension : Nat) : word.doubleNumber low extension < 32 :=
  BitVec.isLt _

theorem singleNumber_lt (low extension : Nat) : word.singleNumber low extension < 32 :=
  BitVec.isLt _

theorem scalarNumber_lt (low extension : Nat) : word.scalarNumber low extension < 32 := by
  rw [scalarNumber]
  split
  · exact word.doubleNumber_lt low extension
  · exact word.singleNumber_lt low extension

theorem vectorClass_cases : word.vectorClass = .double ∨ word.vectorClass = .quad := by
  rw [vectorClass]
  split
  · exact .inr rfl
  · exact .inl rfl

end Word

/-! ## Operands -/

variable (word : Word)

theorem decode_vectorPair : ∃ operands : VectorPair,
    Layout.vectorPair.decode word = .vectorPair operands ∧
    operands.destination = word.doubleNumber 12 22 ∧
    operands.source = word.doubleNumber 0 5 ∧
    operands.size = word.field 18 2 ∧
    operands.float = word.flag 10 ∧
    operands.registers = word.vectorClass :=
  ⟨_, rfl, rfl, rfl, rfl, rfl, rfl⟩

theorem decode_vectorTriple : ∃ operands : VectorTriple,
    Layout.vectorTriple.decode word = .vectorTriple operands ∧
    operands.destination = word.doubleNumber 12 22 ∧
    operands.left = word.doubleNumber 16 7 ∧
    operands.right = word.doubleNumber 0 5 ∧
    operands.size = word.field 20 2 ∧
    operands.unsigned = word.flag 24 ∧
    operands.registers = word.vectorClass :=
  ⟨_, rfl, rfl, rfl, rfl, rfl, rfl, rfl⟩

theorem decode_scalarPair : ∃ operands : ScalarPair,
    Layout.scalarPair.decode word = .scalarPair operands ∧
    operands.destination = word.scalarNumber 12 22 ∧
    operands.source = word.scalarNumber 0 5 ∧
    operands.size = word.field 8 2 :=
  ⟨_, rfl, rfl, rfl, rfl⟩

theorem decode_scalarTriple : ∃ operands : ScalarTriple,
    Layout.scalarTriple.decode word = .scalarTriple operands ∧
    operands.destination = word.scalarNumber 12 22 ∧
    operands.left = word.scalarNumber 16 7 ∧
    operands.right = word.scalarNumber 0 5 ∧
    operands.size = word.field 8 2 :=
  ⟨_, rfl, rfl, rfl, rfl, rfl⟩

theorem size_expandImmediate_lt (cmode op imm8 : Nat) :
    (expandImmediate cmode op imm8).size < 4 := by
  simp only [expandImmediate]
  split_ifs <;> simp only [Nat.reduceLT]

theorem decode_vectorImmediate : ∃ operands : VectorImmediate,
    Layout.vectorImmediate.decode word = .vectorImmediate operands ∧
    operands.destination = word.doubleNumber 12 22 ∧
    operands.size < 4 ∧
    operands.registers = word.vectorClass ∧
    operands.op = word.field 5 1 ∧
    operands.cmode = word.field 8 4 ∧
    ⟨operands.immediate, operands.size⟩ =
      expandImmediate (word.field 8 4) (word.field 5 1)
        (word.extractLsb' 24 1 ++ word.extractLsb' 16 3 ++ word.extractLsb' 0 4).toNat :=
  ⟨_, rfl, rfl, size_expandImmediate_lt _ _ _, rfl, rfl, rfl, rfl⟩

/-! ## Layouts -/

def Mnemonic.layout : Mnemonic → Layout
  | .bfc | .bfi => .bitfield
  | .vabsV | .vnegV => .vectorPair
  | .vmovI => .vectorImmediate
  | .vabsS | .vnegS | .vsqrtS => .scalarPair
  | .vaddS | .vsubS | .vmulS | .vdivS | .vmlaS | .vmlsS => .scalarTriple
  | .vaddI | .vsubI | .vmulI | .vmlaI | .vmlsI | .vmax | .vmin | .vand | .vorr | .veor
  | .vaddV | .vsubV | .vmulV | .vmlaV | .vmlsV => .vectorTriple

theorem layout_of_mem_table : ∀ row ∈ table,
    row.descriptor.layout = row.descriptor.mnemonic.layout := by
  decide

theorem layout_of_lookup? {word : Word} {row : Row} (found : lookup? word = some row) :
    row.descriptor.layout = row.descriptor.mnemonic.layout := by
  rw [lookup?, firstMatch?] at found
  exact layout_of_mem_table row (List.mem_of_find?_eq_some found)

end LaneLift.Guest
