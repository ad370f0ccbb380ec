import LaneLift.Proofs.Lifting.Block
import LaneLift.Proofs.Lifting.Float

/-!
# Independent instructions

Two instructions can be swapped if neither writes a register that the other reads or
writes. Each commits the whole bank of its destination, but with the rest of the bank
as it is at that moment; so this holds for registers of one bank, too.
-/

namespace LaneLift

namespace Guest

def Mnemonic.accumulates : Mnemonic → Bool
  | .vmlaI | .vmlaS | .vmlaV | .vmlsI | .vmlsS | .vmlsV => true
  | _ => false

namespace Word

def span (word : Word) (mnemonic : Mnemonic) (low extension : Nat) : Span :=
  if mnemonic.isScalar then word.scalarSpan low extension
  else word.vectorClass.span (word.doubleNumber low extension)

def written (word : Word) (mnemonic : Mnemonic) : Span :=
  word.span mnemonic 12 22

def read (word : Word) (mnemonic : Mnemonic) : List Span :=
  let destination := if mnemonic.accumulates then [word.span mnemonic 12 22] else []
  match mnemonic.layout with
  | .bitfield | .vectorImmediate => destination
  | .vectorPair | .scalarPair => destination ++ [word.span mnemonic 0 5]
  | .vectorTriple | .scalarTriple =>
      destination ++ [word.span mnemonic 16 7, word.span mnemonic 0 5]

end Word

end Guest

namespace Lifting

open Guest (Mnemonic Word)
open Lane (Code ScalarType)

theorem Transforms.comm [FloatArithmetic] {firstCode secondCode : Code}
    {firstWritten secondWritten : Span}
    {firstRead secondRead : List Span} {first second : RegisterFile → RegisterFile}
    (firstTransforms : Transforms firstCode firstWritten firstRead first)
    (secondTransforms : Transforms secondCode secondWritten secondRead second)
    (apart : firstWritten.Apart secondWritten)
    (firstApart : ∀ span ∈ secondRead, firstWritten.Apart span)
    (secondApart : ∀ span ∈ firstRead, secondWritten.Apart span) (registers : RegisterFile) :
    second (first registers) = first (second registers) := by
  have firstDepends : RegisterFile.AgreeOn firstWritten (first (second registers))
      (first registers) :=
    firstTransforms.depends _ _ fun span member =>
      (secondTransforms.spares registers).agreeOn (secondApart span member)
  have secondDepends : RegisterFile.AgreeOn secondWritten (second (first registers))
      (second registers) :=
    secondTransforms.depends _ _ fun span member =>
      (firstTransforms.spares registers).agreeOn (firstApart span member)
  apply RegisterFile.ext_byte
  intro offset
  by_cases inFirst : firstWritten.Covers offset
  · have outside := apart.symm.not_covers inFirst
    rw [secondTransforms.spares _ offset outside, firstDepends offset inFirst]
  · rw [firstTransforms.spares (second registers) offset inFirst]
    by_cases inSecond : secondWritten.Covers offset
    · exact secondDepends offset inSecond
    · rw [secondTransforms.spares _ offset inSecond, secondTransforms.spares _ offset inSecond,
        firstTransforms.spares _ offset inFirst]

/-! ## Registers of a word -/

section Plans

variable {word : Word} {mnemonic : Mnemonic} {plan : Plan}

theorem span_scalarNumber (upper : word.flag 9 = true) (low extension : Nat) :
    (scalarClass (.floatOfSize (word.field 8 2))).span (word.scalarNumber low extension) =
      word.scalarSpan low extension := by
  rw [← Word.span_scalarNumber upper, Word.floatOfSize_eq_precision]
  cases word.precision <;> rfl

theorem spans_of_plan (upper : mnemonic.isScalar = true → word.flag 9 = true)
    (planned : plan? mnemonic (mnemonic.layout.decode word) = some plan) :
    plan.written = word.written mnemonic ∧ plan.read = word.read mnemonic := by
  cases mnemonic with
  | bfc | bfi => cases planned
  | vabsV | vnegV =>
      simp only [plan?, pairPlan?, Mnemonic.layout, Guest.Layout.decode] at planned
      split at planned <;> cases planned <;> exact ⟨rfl, rfl⟩
  | vmax | vmin =>
      simp only [plan?, triplePlan?, Mnemonic.layout, Guest.Layout.decode] at planned
      split at planned <;> cases planned <;> exact ⟨rfl, rfl⟩
  | vmovI =>
      simp only [plan?, immediatePlan?, Mnemonic.layout, Guest.Layout.decode] at planned
      split at planned <;> cases planned
      exact ⟨rfl, rfl⟩
  | vaddI | vsubI | vmulI | vand | vorr | veor | vmlaI | vmlsI | vaddV | vsubV | vmulV | vmlaV
  | vmlsV =>
      cases planned
      exact ⟨rfl, rfl⟩
  | vabsS | vnegS | vsqrtS =>
      cases planned
      have spans := span_scalarNumber (upper rfl)
      exact ⟨spans 12 22, congrArg ([·]) (spans 0 5)⟩
  | vaddS | vsubS | vmulS | vdivS =>
      cases planned
      have spans := span_scalarNumber (upper rfl)
      have sources := congrArg ([·]) (spans 0 5)
      exact ⟨spans 12 22, congr (congrArg List.cons (spans 16 7)) sources⟩
  | vmlaS | vmlsS =>
      cases planned
      have spans := span_scalarNumber (upper rfl)
      have sources := congr (congrArg List.cons (spans 16 7)) (congrArg ([·]) (spans 0 5))
      exact ⟨spans 12 22, congr (congrArg List.cons (spans 12 22)) sources⟩

end Plans

end Lifting

open Guest (Address Row Word)
open Lane (CodeBuilder)
open Lifting (Transforms)

/-! ## Blocks of two words -/

section Words

variable {settings : Settings} {address : Address} {word : Word} {row : Row}

theorem exists_transforms [FloatArithmetic] (found : Guest.lookup? word = some row)
    (accepted : (liftWord settings address word).result = .ok ()) :
    ∃ transform, Transforms (liftWord settings address word).code
      (word.written row.descriptor.mnemonic) (word.read row.descriptor.mnemonic) transform := by
  rcases exists_plan accepted with ⟨other, plan, foundOther, allowed, planned⟩
  cases Option.some.inj (found.symm.trans foundOther)
  rw [(liftWord_of_plan found allowed planned).1]
  have sound := Lifting.sound_of_plan planned
  rw [Guest.layout_of_lookup? found] at planned
  rcases Lifting.spans_of_plan (Word.flag_of_lookup? found) planned with ⟨written, read⟩
  rw [← written, ← read]
  exact sound.exists_transforms

end Words

theorem run_liftBlock_pair [FloatArithmetic] {settings : Settings} {there elsewhere : Address}
    {first second : Word}
    (firstAccepted : (liftWord settings there first).result = .ok ())
    (secondAccepted : (liftWord settings elsewhere second).result = .ok ())
    {firstWritten secondWritten : Span} {firstRead secondRead : List Span}
    {firstTransform secondTransform : RegisterFile → RegisterFile}
    (firstTransforms : Transforms (liftWord settings there first).code firstWritten firstRead
      firstTransform)
    (secondTransforms : Transforms (liftWord settings elsewhere second).code secondWritten
      secondRead secondTransform)
    (address : Address) (name : String) (registers : RegisterFile) :
    (liftBlock settings address [first, second]).result = .ok 2 ∧
    (CodeBuilder.appendAll ({ name := name } : Lane.Function)
      (liftBlock settings address [first, second]).segments).run registers =
        ⟨secondTransform (firstTransform registers), .ok ()⟩ := by
  have firstHere := liftWord_elsewhere firstAccepted (wordAddress address 0)
  have secondHere := liftWord_elsewhere secondAccepted (wordAddress address 1)
  rw [liftBlock, liftFrom_cons firstHere.1, liftFrom_cons secondHere.1, firstHere.2, secondHere.2]
  refine ⟨rfl, ?_⟩
  rcases firstTransforms.reaches registers with ⟨firstValues, firstRun⟩
  rcases secondTransforms.reaches (firstTransform registers) with ⟨secondValues, secondRun⟩
  have leaves := (Lane.Function.leaves_empty name registers).append firstRun
  exact (leaves.append secondRun).run

/-- Two words that are lifted, neither of which writes a register that the other reads
or writes, leave the same registers in either order. -/
theorem run_liftBlock_swap [FloatArithmetic] (settings : Settings) (first second : Word)
    (firstRow secondRow : Row)
    (firstFound : Guest.lookup? first = some firstRow)
    (secondFound : Guest.lookup? second = some secondRow) (there elsewhere : Address)
    (firstAccepted : (liftWord settings there first).result = .ok ())
    (secondAccepted : (liftWord settings elsewhere second).result = .ok ())
    (apart : (first.written firstRow.descriptor.mnemonic).Apart
      (second.written secondRow.descriptor.mnemonic))
    (firstApart : ∀ span ∈ second.read secondRow.descriptor.mnemonic,
      (first.written firstRow.descriptor.mnemonic).Apart span)
    (secondApart : ∀ span ∈ first.read firstRow.descriptor.mnemonic,
      (second.written secondRow.descriptor.mnemonic).Apart span)
    (address other : Address) (name otherName : String) (registers : RegisterFile) :
    (liftBlock settings address [first, second]).result = .ok 2 ∧
    (liftBlock settings other [second, first]).result = .ok 2 ∧
    ∃ after,
      (CodeBuilder.appendAll ({ name := name } : Lane.Function)
        (liftBlock settings address [first, second]).segments).run registers = ⟨after, .ok ()⟩ ∧
      (CodeBuilder.appendAll ({ name := otherName } : Lane.Function)
        (liftBlock settings other [second, first]).segments).run registers = ⟨after, .ok ()⟩ := by
  rcases exists_transforms firstFound firstAccepted with ⟨firstTransform, firstTransforms⟩
  rcases exists_transforms secondFound secondAccepted with ⟨secondTransform, secondTransforms⟩
  rcases run_liftBlock_pair firstAccepted secondAccepted firstTransforms secondTransforms address
    name registers with ⟨result, run⟩
  rcases run_liftBlock_pair secondAccepted firstAccepted secondTransforms firstTransforms other
    otherName registers with ⟨swappedResult, swapped⟩
  have same := firstTransforms.comm secondTransforms apart firstApart secondApart registers
  rw [← same] at swapped
  exact ⟨result, swappedResult, _, run, swapped⟩

private def halfFull : RegisterFile :=
  RegisterFile.zero.setBank 0 0xffffffffffffffff

/-- `vneg.f32 s1, s0` and `vneg.s32 d1, d3` write to different registers of one bank. -/
theorem run_liftBlock_swap_bank :
    (Word.written 0xeef10a40 .vnegS = ⟨4, 4⟩ ∧ Word.written 0xf3b91383 .vnegV = ⟨8, 8⟩) ∧
    ∃ after,
      (CodeBuilder.appendAll ({} : Lane.Function)
        (liftBlock {} 0 [0xeef10a40, 0xf3b91383]).segments).run halfFull = ⟨after, .ok ()⟩ ∧
      (CodeBuilder.appendAll ({} : Lane.Function)
        (liftBlock {} 0 [0xf3b91383, 0xeef10a40]).segments).run halfFull = ⟨after, .ok ()⟩ := by
  refine ⟨by decide, ?_⟩
  have scalarFound : Guest.lookup? 0xeef10a40 = some
      ⟨0xffbf0ed0, 0xeeb10a40, .vnegS, .scalarPair⟩ := by rfl
  have vectorFound : Guest.lookup? 0xf3b91383 = some
      ⟨0xffb30b90, 0xf3b10380, .vnegV, .vectorPair⟩ := by rfl
  exact (run_liftBlock_swap {} 0xeef10a40 0xf3b91383 _ _ scalarFound vectorFound 0 0 rfl rfl
    (by decide) (by decide) (by decide) 0 0 "" "" halfFull).2.2

end LaneLift
