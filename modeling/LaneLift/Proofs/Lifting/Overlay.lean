import LaneLift.Proofs.Lifting.Assembly
import LaneLift.Proofs.Lifting.Block
import LaneLift.Proofs.Lifting.FloatVector

/-!
# Vector instructions by VFP instructions

A vector instruction on floats leaves the registers that VFP instructions of the same name
leave, one for each lane, on the registers that overlay the lanes. The vector instruction reads
all lanes before it writes any. The VFP instructions find the lanes before theirs written; but
as two vector registers are the same or have no byte in common, no later one reads those.
-/

namespace LaneLift

namespace Guest

namespace Word

def bank (word : Word) (field : RegisterField) : Nat :=
  word.doubleNumber field.low field.extension / 2

/-- A VFP word is the same instruction as a vector word, in the precision of its lanes and
on the registers that overlay lane `index` of its registers. -/
structure Overlays (scalar word : Word) (mnemonic : Mnemonic) (index : Nat) : Prop where
  instruction : ∃ row, lookup? scalar = some row ∧ row.descriptor.mnemonic.isScalar = true ∧
    row.descriptor.mnemonic.name = mnemonic.name
  precision : scalar.precision = word.lanePrecision mnemonic
  registers : ∀ field ∈ mnemonic.registerFields,
    scalar.scalarSpan field.low field.extension =
      word.laneSpan mnemonic field.low field.extension index

structure OverlaidBy (word : Word) (mnemonic : Mnemonic) (scalars : List Word) : Prop where
  length : scalars.length = word.laneCount mnemonic
  overlays : ∀ index (inside : index < scalars.length),
    scalars[index].Overlays word mnemonic index

end Word

/-! ## Instructions of one name -/

namespace Mnemonic

theorem eq_of_name : ∀ left ∈ all, ∀ right ∈ all, left.isScalar = true →
    right.isScalar = true → left.name = right.name → left = right := by
  decide +kernel

variable [FloatArithmetic]

theorem float?_congr {mnemonic : Mnemonic} {format : FloatFormat}
    (left right : RegisterField → BitVec format.width)
    (same : ∀ field ∈ mnemonic.registerFields, left field = right field) :
    mnemonic.float? format (left ⟨12, 22⟩) (left ⟨16, 7⟩) (left ⟨0, 5⟩) =
      mnemonic.float? format (right ⟨12, 22⟩) (right ⟨16, 7⟩) (right ⟨0, 5⟩) := by
  cases mnemonic <;> simp_all [registerFields, layout, float?]

structure Scalarizes (scalar mnemonic : Mnemonic) : Prop where
  fields : scalar.registerFields = mnemonic.registerFields
  writes : ⟨12, 22⟩ ∈ mnemonic.registerFields
  float : ∀ (format : FloatFormat) (d n m : BitVec format.width),
    scalar.float? format d n m = mnemonic.float? format d n m

theorem scalarizes_of_name {word : Word} {scalar mnemonic : Mnemonic}
    (floats : word.computesFloats mnemonic = true) (isScalar : scalar.isScalar = true)
    (name : scalar.name = mnemonic.name) : scalar.Scalarizes mnemonic := by
  have scalarIs : ∀ other : Mnemonic, other.isScalar = true → other.name = mnemonic.name →
      scalar = other :=
    fun other otherScalar otherName => eq_of_name scalar (mem_all scalar) other (mem_all other)
      isScalar otherScalar (name.trans otherName.symm)
  cases mnemonic with
  | vaddV => exact scalarIs .vaddS rfl rfl ▸ ⟨rfl, by decide, fun _ _ _ _ => rfl⟩
  | vsubV => exact scalarIs .vsubS rfl rfl ▸ ⟨rfl, by decide, fun _ _ _ _ => rfl⟩
  | vmulV => exact scalarIs .vmulS rfl rfl ▸ ⟨rfl, by decide, fun _ _ _ _ => rfl⟩
  | vmlaV => exact scalarIs .vmlaS rfl rfl ▸ ⟨rfl, by decide, fun _ _ _ _ => rfl⟩
  | vmlsV => exact scalarIs .vmlsS rfl rfl ▸ ⟨rfl, by decide, fun _ _ _ _ => rfl⟩
  | vabsV => exact scalarIs .vabsS rfl rfl ▸ ⟨rfl, by decide, fun _ _ _ _ => rfl⟩
  | vnegV => exact scalarIs .vnegS rfl rfl ▸ ⟨rfl, by decide, fun _ _ _ _ => rfl⟩
  | _ => cases floats

end Mnemonic

/-! ## Lanes -/

namespace Word

variable {word : Word} {mnemonic : Mnemonic}

theorem lane_fits {index : Nat} (inside : index < word.laneCount mnemonic) :
    (word.lanePrecision mnemonic).width / 8 * index + (word.lanePrecision mnemonic).width / 8 ≤
      word.vectorClass.bytes := by
  rw [bytes_vectorClass word mnemonic, ← Nat.mul_succ]
  exact Nat.mul_le_mul_left _ inside

theorem isVector_vectorClass (word : Word) : word.vectorClass.isVector = true := by
  rcases word.vectorClass_cases with double | quad
  · rw [double]
    rfl
  · rw [quad]
    rfl

theorem offset_vectorClass_dvd (word : Word) (number : Nat) :
    8 ∣ word.vectorClass.offset number := by
  rcases word.vectorClass_cases with double | quad
  · rw [double]
    exact ⟨number, rfl⟩
  · rw [quad]
    exact ⟨2 * (number / 2), by simp only [RegisterClass.offset]; omega⟩

theorem offset_vectorClass_le (word : Word) (number : Nat) :
    word.vectorClass.offset number + word.vectorClass.bytes ≤ 16 * (number / 2) + 16 := by
  rcases word.vectorClass_cases with double | quad
  · rw [double]
    simp only [RegisterClass.offset, RegisterClass.bytes]
    omega
  · rw [quad]
    simp only [RegisterClass.offset, RegisterClass.bytes]
    omega

/-- Each lane of a word is overlaid by a register with a number below 32: of double precision
anywhere, of single precision in the lower eight banks. -/
theorem exists_number {field : RegisterField} {index : Nat}
    (low : word.lanePrecision mnemonic = .single → word.bank field < 8)
    (inside : index < word.laneCount mnemonic) :
    ∃ number : BitVec 5, (word.lanePrecision mnemonic).registers.span number.toNat =
      word.laneSpan mnemonic field.low field.extension index := by
  have fits := lane_fits inside
  have divides := word.offset_vectorClass_dvd (word.doubleNumber field.low field.extension)
  have ends := word.offset_vectorClass_le (word.doubleNumber field.low field.extension)
  have number := word.doubleNumber_lt field.low field.extension
  rw [bank] at low
  rw [laneSpan]
  generalize word.vectorClass.offset _ = offset at *
  cases precision : word.lanePrecision mnemonic with
  | single =>
      have lower := low precision
      simp only [precision, FloatFormat.width] at fits ⊢
      refine ⟨BitVec.ofNat 5 (offset / 4 + index), ?_⟩
      rw [BitVec.toNat_ofNat, Nat.mod_eq_of_lt (by omega)]
      simp only [RegisterClass.span, FloatFormat.registers, RegisterClass.offset,
        RegisterClass.bytes, Span.mk.injEq, and_true]
      omega
  | double =>
      simp only [precision, FloatFormat.width] at fits ⊢
      refine ⟨BitVec.ofNat 5 (offset / 8 + index), ?_⟩
      rw [BitVec.toNat_ofNat, Nat.mod_eq_of_lt (by omega)]
      simp only [RegisterClass.span, FloatFormat.registers, RegisterClass.offset,
        RegisterClass.bytes, Span.mk.injEq, and_true]
      omega

theorem exists_scalarRow (floats : word.computesFloats mnemonic = true) :
    ∃ row ∈ table, row.descriptor.mnemonic.isScalar = true ∧
      row.descriptor.mnemonic.name = mnemonic.name := by
  cases mnemonic with
  | vaddV | vsubV | vmulV | vmlaV | vmlsV | vabsV | vnegV => decide
  | _ => cases floats

variable [FloatArithmetic]

theorem exists_overlays {index : Nat} (floats : word.computesFloats mnemonic = true)
    (low : word.lanePrecision mnemonic = .single →
      ∀ field ∈ mnemonic.registerFields, word.bank field < 8)
    (inside : index < word.laneCount mnemonic) :
    ∃ scalar : Word, scalar.Overlays word mnemonic index := by
  rcases exists_scalarRow floats with ⟨row, member, isScalar, name⟩
  have fields := (Mnemonic.scalarizes_of_name floats isScalar name).fields
  have numbers : ∀ field : RegisterField, ∃ number : BitVec 5,
      field ∈ mnemonic.registerFields →
        (word.lanePrecision mnemonic).registers.span number.toNat =
          word.laneSpan mnemonic field.low field.extension index := by
    intro field
    by_cases inFields : field ∈ mnemonic.registerFields
    · rcases exists_number (fun single => low single field inFields) inside with ⟨number, isNumber⟩
      exact ⟨number, fun _ => isNumber⟩
    · exact ⟨0, fun other => absurd other inFields⟩
  choose number isNumber using numbers
  rcases exists_scalarWord member isScalar (word.lanePrecision mnemonic) number with
    ⟨scalar, found, precision, spans⟩
  refine ⟨scalar, ⟨row, found, isScalar, name⟩, precision, ?_⟩
  intro field inFields
  rw [spans field (fields ▸ inFields), isNumber field inFields]

theorem exists_overlaidBy (floats : word.computesFloats mnemonic = true)
    (low : word.lanePrecision mnemonic = .single →
      ∀ field ∈ mnemonic.registerFields, word.bank field < 8) :
    ∃ scalars, word.OverlaidBy mnemonic scalars := by
  choose scalar overlays using fun index : Fin (word.laneCount mnemonic) =>
    exists_overlays floats low index.isLt
  refine ⟨List.ofFn scalar, List.length_ofFn, ?_⟩
  intro index inside
  rw [List.getElem_ofFn]
  exact overlays ⟨index, _⟩

end Word

/-! ## Lane by lane -/

variable [FloatArithmetic]

/-- The first `count` lanes of the destination hold what the instruction makes of the lanes as
they were before, and no byte outside of these lanes has changed. -/
structure LanesMade (word : Word) (mnemonic : Mnemonic) (before after : RegisterFile)
    (count : Nat) : Prop where
  made : ∀ index < count,
    mnemonic.float? _ (word.laneNumber mnemonic before 12 22 index)
      (word.laneNumber mnemonic before 16 7 index) (word.laneNumber mnemonic before 0 5 index) =
        some (word.laneNumber mnemonic after 12 22 index)
  spares : RegisterFile.AgreeOutside
    ⟨word.vectorClass.offset (word.doubleNumber 12 22),
      (word.lanePrecision mnemonic).width / 8 * count⟩ after before

namespace LanesMade

variable {word : Word} {mnemonic : Mnemonic} {before : RegisterFile}

theorem start (word : Word) (mnemonic : Mnemonic) (before : RegisterFile) :
    LanesMade word mnemonic before before 0 where
  made index inside := absurd inside (Nat.not_lt_zero index)
  spares _ _ := rfl

/-- A lane whose turn has not come is in all registers as it was before: its register is the
destination, of which the lanes made are others, or is apart from it. -/
theorem laneNumber_eq {current : RegisterFile} {index : Nat}
    (lanes : LanesMade word mnemonic before current index)
    (inside : index < word.laneCount mnemonic) (low extension : Nat) :
    word.laneNumber mnemonic current low extension index =
      word.laneNumber mnemonic before low extension index := by
  have fits := Word.lane_fits inside
  have apart : Span.Apart ⟨word.vectorClass.offset (word.doubleNumber 12 22),
      (word.lanePrecision mnemonic).width / 8 * index⟩
      (word.laneSpan mnemonic low extension index) := by
    rcases RegisterClass.offset_eq_or_apart word.isVector_vectorClass
      (word.doubleNumber 12 22) (word.doubleNumber low extension) with same | apart
    · left
      rw [Word.laneSpan, same]
    · simp only [Span.Apart, RegisterClass.span, Word.laneSpan] at apart ⊢
      omega
  exact (lanes.spares.agreeOn apart).number_eq (Nat.le_refl _) (Nat.le_refl _)

theorem next {current after : RegisterFile} {index : Nat}
    (lanes : LanesMade word mnemonic before current index)
    (inside : index < word.laneCount mnemonic)
    (made : mnemonic.float? _ (word.laneNumber mnemonic current 12 22 index)
      (word.laneNumber mnemonic current 16 7 index)
      (word.laneNumber mnemonic current 0 5 index) =
        some (word.laneNumber mnemonic after 12 22 index))
    (spares : RegisterFile.AgreeOutside (word.laneSpan mnemonic 12 22 index) after current) :
    LanesMade word mnemonic before after (index + 1) where
  made other before := by
    rcases Nat.lt_succ_iff_lt_or_eq.mp before with earlier | rfl
    · have ordered : (word.lanePrecision mnemonic).width / 8 * other +
          (word.lanePrecision mnemonic).width / 8 ≤
            (word.lanePrecision mnemonic).width / 8 * index := by
        rw [← Nat.mul_succ]
        exact Nat.mul_le_mul_left _ earlier
      have apart : (word.laneSpan mnemonic 12 22 index).Apart
          (word.laneSpan mnemonic 12 22 other) := by
        simp only [Span.Apart, Word.laneSpan]
        omega
      have kept := (spares.agreeOn apart).number_eq (Nat.le_refl _) (Nat.le_refl _)
      rw [lanes.made other earlier]
      exact congrArg some kept.symm
    · rw [← made, lanes.laneNumber_eq inside, lanes.laneNumber_eq inside,
        lanes.laneNumber_eq inside]
  spares offset outside := by
    have outsideLane : ¬(word.laneSpan mnemonic 12 22 index).Covers offset := by
      simp only [Span.Covers, Word.laneSpan, Nat.mul_succ] at outside ⊢
      omega
    rw [spares offset outsideLane]
    apply lanes.spares
    simp only [Span.Covers, Nat.mul_succ] at outside ⊢
    omega

theorem unique {left right : RegisterFile}
    (leftLanes : LanesMade word mnemonic before left (word.laneCount mnemonic))
    (rightLanes : LanesMade word mnemonic before right (word.laneCount mnemonic)) :
    left = right := by
  have agree : RegisterFile.AgreeOn ⟨word.vectorClass.offset (word.doubleNumber 12 22),
      (word.lanePrecision mnemonic).width / 8 * word.laneCount mnemonic⟩ left right := by
    apply RegisterFile.agreeOn_of_numbers (FloatFormat.eight_dvd_width _) rfl
    intro index inside
    have leftMade := leftLanes.made index inside
    rw [rightLanes.made index inside] at leftMade
    exact (Option.some.inj leftMade).symm
  apply RegisterFile.ext_byte
  intro offset
  by_cases covered : Span.Covers ⟨word.vectorClass.offset (word.doubleNumber 12 22),
      (word.lanePrecision mnemonic).width / 8 * word.laneCount mnemonic⟩ offset
  · exact agree offset covered
  · rw [leftLanes.spares offset covered, rightLanes.spares offset covered]

end LanesMade

end Guest

open Guest (Address LanesMade Mnemonic Row Word)
open Lane (Code CodeBuilder)

/-! ## Running the words -/

section Words

variable [FloatArithmetic] {word : Word} {mnemonic : Mnemonic}

theorem reaches_overlay {scalar : Word} {before current : RegisterFile} {index : Nat}
    (floats : word.computesFloats mnemonic = true)
    (overlays : scalar.Overlays word mnemonic index) (inside : index < word.laneCount mnemonic)
    (lanes : LanesMade word mnemonic before current index) (address : Address) :
    (liftWord {} address scalar).result = .ok () ∧
    ∃ values after,
      Code.Reaches ⟨[], current⟩ (liftWord {} address scalar).code ⟨values, after⟩ ∧
      LanesMade word mnemonic before after (index + 1) := by
  rcases overlays.instruction with ⟨row, found, isScalar, name⟩
  have scalarizes := Mnemonic.scalarizes_of_name floats isScalar name
  have destination := overlays.registers ⟨12, 22⟩ scalarizes.writes
  rcases reaches_liftWord_scalar found (Settings.allows_default _) isScalar address current with
    ⟨result, values, after, run, made, spared⟩
  have operands := Mnemonic.float?_congr
    (fun field => current.number (scalar.scalarSpan field.low field.extension).offset
      (word.lanePrecision mnemonic).width)
    (fun field => word.laneNumber mnemonic current field.low field.extension index)
    fun field inFields => by
      rw [overlays.registers field inFields]
      rfl
  simp only [Word.scalar] at made
  rw [overlays.precision, scalarizes.float, operands, destination] at made
  rw [destination] at spared
  exact ⟨result, values, after, run, lanes.next inside made spared⟩

theorem runWords_overlay {scalars : List Word} {before current : RegisterFile} {index : Nat}
    (floats : word.computesFloats mnemonic = true)
    (overlays : ∀ position (inside : position < scalars.length),
      scalars[position].Overlays word mnemonic (index + position))
    (bound : index + scalars.length ≤ word.laneCount mnemonic)
    (lanes : LanesMade word mnemonic before current index) (address : Address) :
    ∃ after,
      (liftFrom {} address index scalars).result = .ok (index + scalars.length) ∧
      runWords {} address index current scalars = .ok ⟨after, .ok ()⟩ ∧
      LanesMade word mnemonic before after (index + scalars.length) := by
  induction scalars generalizing current index with
  | nil => exact ⟨current, rfl, rfl, lanes⟩
  | cons scalar rest induction =>
      have first : scalar.Overlays word mnemonic index := overlays 0 (Nat.zero_lt_succ _)
      have others : ∀ position (inside : position < rest.length),
          rest[position].Overlays word mnemonic (index + 1 + position) := by
        intro position inside
        have overlay := overlays (position + 1) (Nat.succ_lt_succ inside)
        rw [Nat.add_assoc, Nat.add_comm 1]
        exact overlay
      have length : index + (scalar :: rest).length = index + 1 + rest.length := by
        rw [List.length_cons]
        omega
      rw [length] at bound ⊢
      rcases reaches_overlay floats first (by omega) lanes (wordAddress address index) with
        ⟨lifted, values, next, run, nextLanes⟩
      rcases induction others bound nextLanes with ⟨after, result, runRest, afterLanes⟩
      refine ⟨after, ?_, ?_, afterLanes⟩
      · rw [liftFrom_cons lifted]
        exact result
      · rw [runWords_cons lifted run]
        exact runRest

theorem run_overlaidBy {scalars : List Word} (floats : word.computesFloats mnemonic = true)
    (overlaid : word.OverlaidBy mnemonic scalars) (address : Address) (name : String)
    (registers : RegisterFile) :
    ∃ after,
      LanesMade word mnemonic registers after (word.laneCount mnemonic) ∧
      (liftBlock {} address scalars).result = .ok scalars.length ∧
      (CodeBuilder.appendAll ({ name := name } : Lane.Function)
        (liftBlock {} address scalars).segments).run registers = ⟨after, .ok ()⟩ ∧
      runWords {} address 0 registers scalars = .ok ⟨after, .ok ()⟩ := by
  have overlays : ∀ position (inside : position < scalars.length),
      scalars[position].Overlays word mnemonic (0 + position) := by
    intro position inside
    rw [Nat.zero_add]
    exact overlaid.overlays position inside
  have bound : 0 + scalars.length ≤ word.laneCount mnemonic := by
    rw [Nat.zero_add, overlaid.length]
  rcases runWords_overlay floats overlays bound (LanesMade.start word mnemonic registers)
    address with ⟨after, lifted, runAlone, lanes⟩
  rw [Nat.zero_add] at lifted lanes
  rcases leaves_appendAll {} address scalars 0 lifted
    (Lane.Function.leaves_empty name registers) with ⟨progress, leaves, runBlock⟩
  have same := runAlone.symm.trans runBlock
  simp only [Except.ok.injEq, Lane.Outcome.mk.injEq, and_true] at same
  refine ⟨after, overlaid.length ▸ lanes, lifted, ?_, runAlone⟩
  rw [liftBlock, leaves.run, same]

theorem reaches_lanes {row : Row} (found : Guest.lookup? word = some row)
    (floats : word.computesFloats row.descriptor.mnemonic = true) (address : Address)
    (registers : RegisterFile) :
    (liftWord {} address word).result = .ok () ∧
    ∃ values after,
      Code.Reaches ⟨[], registers⟩ (liftWord {} address word).code ⟨values, after⟩ ∧
      LanesMade word row.descriptor.mnemonic registers after
        (word.laneCount row.descriptor.mnemonic) := by
  rcases reaches_liftWord_floats found (Settings.allows_default _) floats address registers with
    ⟨result, values, after, run, made, spared⟩
  rw [RegisterClass.span, word.bytes_vectorClass row.descriptor.mnemonic] at spared
  exact ⟨result, values, after, run, made, spared⟩

end Words

/-- Running a vector instruction on floats leaves the registers that running VFP instructions
of the same name leaves, one for each lane in ascending order, on the registers that overlay
the lanes. Such instructions exist for lanes of double precision, and for lanes of single
precision whose registers all lie in the lower eight banks. -/
theorem run_liftWord_overlay [FloatArithmetic] (word : Word) (row : Row)
    (found : Guest.lookup? word = some row)
    (floats : word.computesFloats row.descriptor.mnemonic = true)
    (low : word.lanePrecision row.descriptor.mnemonic = .single →
      ∀ field ∈ row.descriptor.mnemonic.registerFields, word.bank field < 8)
    (address : Address) (name : String) (registers : RegisterFile) :
    (liftWord {} address word).result = .ok () ∧
    ∃ after,
      (CodeBuilder.append ({ name := name } : Lane.Function)
        (liftWord {} address word).code).run registers = ⟨after, .ok ()⟩ ∧
      (∃ scalars, word.OverlaidBy row.descriptor.mnemonic scalars) ∧
      ∀ scalars, word.OverlaidBy row.descriptor.mnemonic scalars →
        ∀ (other : Address) (otherName : String),
          (liftBlock {} other scalars).result = .ok scalars.length ∧
          (CodeBuilder.appendAll ({ name := otherName } : Lane.Function)
            (liftBlock {} other scalars).segments).run registers = ⟨after, .ok ()⟩ ∧
          runWords {} other 0 registers scalars = .ok ⟨after, .ok ()⟩ := by
  rcases reaches_lanes found floats address registers with ⟨result, values, after, run, lanes⟩
  refine ⟨result, after, Lane.Function.run_append_empty run,
    Word.exists_overlaidBy floats low, ?_⟩
  intro scalars overlaid other otherName
  rcases run_overlaidBy floats overlaid other otherName registers with
    ⟨last, lastLanes, lifted, runBlock, runAlone⟩
  rw [lanes.unique lastLanes]
  exact ⟨lifted, runBlock, runAlone⟩

private def halves : RegisterFile :=
  RegisterFile.zero.setBank 0 0x3f0000003f0000003f0000003f000000

/-- `vmla.f32` on the quarters of `q0`, in this order. -/
private def quarters : List Word := [0xee000a00, 0xee400aa0, 0xee011a01, 0xee411aa1]

private theorem overlays_quarters : Word.OverlaidBy 0xf2000d50 .vmlaV quarters where
  length := by decide
  overlays := by
    have isVmla : ∀ scalar ∈ quarters, Guest.lookup? scalar = some
        ⟨0xffb00e50, 0xee000a00, .vmlaS, .scalarTriple⟩ := by
      simp only [quarters, List.forall_mem_cons]
      exact ⟨rfl, rfl, rfl, rfl, nofun⟩
    have precision : ∀ scalar ∈ quarters,
        scalar.precision = Word.lanePrecision 0xf2000d50 .vmlaV := by
      simp only [quarters, List.forall_mem_cons]
      exact ⟨rfl, rfl, rfl, rfl, nofun⟩
    have registers : ∀ index (inside : index < quarters.length),
        ∀ field ∈ Mnemonic.registerFields .vmlaV,
          quarters[index].scalarSpan field.low field.extension =
            Word.laneSpan 0xf2000d50 .vmlaV field.low field.extension index := by
      decide
    intro index inside
    exact {
      instruction := ⟨_, isVmla _ (List.getElem_mem inside), rfl, rfl⟩
      precision := precision _ (List.getElem_mem inside)
      registers := registers index inside }

/-- `vmla.f32 q0, q0, q0` runs as four instructions on the quarters of its one register. -/
theorem run_liftWord_overlay_quarters :
    (Guest.lookup? 0xf2000d50).map (·.descriptor.mnemonic) = some .vmlaV ∧
    ∃ after,
      (CodeBuilder.append ({ name := "vmla" } : Lane.Function)
        (liftWord {} 0x1000 0xf2000d50).code).run halves = ⟨after, .ok ()⟩ ∧
      (CodeBuilder.appendAll ({ name := "vmla" } : Lane.Function)
        (liftBlock {} 0x2000 quarters).segments).run halves = ⟨after, .ok ()⟩ := by
  have found : Guest.lookup? 0xf2000d50 = some
      ⟨0xffa00f10, 0xf2000d10, .vmlaV, .vectorTriple⟩ := by rfl
  rcases run_liftWord_overlay 0xf2000d50 _ found rfl (by decide) 0x1000 "vmla" halves with
    ⟨_, after, run, _, agree⟩
  exact ⟨by rw [found]; rfl, after, run, (agree quarters overlays_quarters 0x2000 "vmla").2.1⟩

end LaneLift
