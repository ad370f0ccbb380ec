import LaneLift.Proofs.Guest.Table
import LaneLift.Proofs.Lifting.Block

/-!
# Which words are lifted

Whether a word is lifted depends on the row that matches it, on the settings and on one
field of immediate instructions. A word that is not lifted leaves nothing behind, so a block
ends at its first such word with the code of the words before it.
-/

namespace LaneLift

open Guest (Address Mnemonic Row Word)
open Lane (CodeBuilder)
open Lifting (plan?)

namespace Settings

/-- What is asked of a class and a word of it: the class is not one of bitfields and its
registers are enabled, and an immediate does not modify its destination. -/
structure Lifts (settings : Settings) (mnemonic : Mnemonic) (word : Word) : Prop where
  notBitfield : mnemonic ≠ .bfc ∧ mnemonic ≠ .bfi
  scalar : mnemonic.isScalar = true → settings.vfp = true
  vector : mnemonic.isVector = true → settings.neon = true
  immediate : mnemonic = .vmovI → word.field 8 4 % 2 = 1 → 12 ≤ word.field 8 4

def Accepts (settings : Settings) (word : Word) : Prop :=
  ∃ row ∈ Guest.table, row.matches word = true ∧ settings.Lifts row.descriptor.mnemonic word

inductive Refuses (settings : Settings) (address : Address) (word : Word) : LiftError → Prop
  | unknown : (∀ row ∈ Guest.table, row.matches word = false) →
      Refuses settings address word (.unknownInstruction address word)
  | unsupported {row : Row} : Guest.lookup? word = some row →
      ¬settings.Lifts row.descriptor.mnemonic word →
      Refuses settings address word
        (.unsupportedInstruction address word row.descriptor.mnemonic)

theorem Lifts.isBitfield {settings : Settings} {mnemonic : Mnemonic} {word : Word}
    (lifts : settings.Lifts mnemonic word) : mnemonic.isBitfield = false := by
  have notBitfield := lifts.notBitfield
  cases mnemonic with
  | bfc | bfi => simp at notBitfield
  | _ => rfl

end Settings

section Words

variable {settings : Settings} {address : Address} {word : Word} {row : Row}

theorem accepts_iff_of_found (found : Guest.lookup? word = some row) :
    settings.Accepts word ↔ settings.Lifts row.descriptor.mnemonic word := by
  constructor
  · rintro ⟨other, member, isMatch, lifts⟩
    have same := Guest.lookup?_of_matches member lifts.isBitfield isMatch
    rw [found, Option.some.injEq] at same
    rw [same]
    exact lifts
  · intro lifts
    rcases Guest.mem_table_of_lookup? found with ⟨member, isMatch⟩
    exact ⟨row, member, isMatch, lifts⟩

theorem lookup?_eq_none_iff :
    Guest.lookup? word = none ↔ ∀ row ∈ Guest.table, row.matches word = false := by
  rw [Guest.lookup?, Guest.firstMatch?, List.find?_eq_none]
  simp only [Bool.not_eq_true]

theorem accepts_or_refuses (settings : Settings) (address : Address) (word : Word) :
    settings.Accepts word ∨ ∃ error, settings.Refuses address word error := by
  cases found : Guest.lookup? word with
  | none => exact .inr ⟨_, .unknown (lookup?_eq_none_iff.mp found)⟩
  | some row =>
      rw [accepts_iff_of_found found]
      by_cases lifts : settings.Lifts row.descriptor.mnemonic word
      · exact .inl lifts
      · exact .inr ⟨_, .unsupported found lifts⟩

/-! ## Plans -/

theorem modifiesDestination_eq_false_iff {cmode : Nat} :
    Lifting.modifiesDestination cmode = false ↔ (cmode % 2 = 1 → 12 ≤ cmode) := by
  simp [Lifting.modifiesDestination]

/-- The operands of a class are planned, unless it is one of bitfields or the word is an
immediate that modifies its destination. -/
theorem exists_plan_iff (mnemonic : Mnemonic) (word : Word) :
    (∃ plan, plan? mnemonic (mnemonic.layout.decode word) = some plan) ↔
      (mnemonic ≠ .bfc ∧ mnemonic ≠ .bfi) ∧
        (mnemonic = .vmovI → word.field 8 4 % 2 = 1 → 12 ≤ word.field 8 4) := by
  cases mnemonic with
  | bfc | bfi => simp [Mnemonic.layout, Guest.Layout.decode, plan?]
  | vmovI =>
      rw [← modifiesDestination_eq_false_iff]
      simp [Mnemonic.layout, Guest.Layout.decode, plan?, Lifting.immediatePlan?]
  | vmax | vmin | vabsV | vnegV =>
      -- One bit of the word decides between two plans.
      have planned : ∀ (flag : Bool) (left right : Lifting.Plan),
          ∃ plan, (if flag then some left else some right) = some plan := by
        rintro (_ | _) left right
        · exact ⟨right, rfl⟩
        · exact ⟨left, rfl⟩
      refine ⟨fun _ => by simp, fun _ => ?_⟩
      exact planned _ _ _
  | _ => simp [Mnemonic.layout, Guest.Layout.decode, plan?, Lifting.triplePlan?,
      Lifting.scalarPairPlan?, Lifting.scalarTriplePlan?]

theorem allows_iff (settings : Settings) (mnemonic : Mnemonic) :
    settings.allows mnemonic = true ↔
      (mnemonic.isScalar = true → settings.vfp = true) ∧
        (mnemonic.isVector = true → settings.neon = true) := by
  rw [Settings.allows]
  cases mnemonic <;> simp [Mnemonic.isScalar, Mnemonic.isVector, Mnemonic.isBitfield]

theorem lifts_iff (found : Guest.lookup? word = some row) :
    settings.Lifts row.descriptor.mnemonic word ↔
      settings.allows row.descriptor.mnemonic = true ∧
        ∃ plan, plan? row.descriptor.mnemonic (row.descriptor.layout.decode word) =
          some plan := by
  rw [Guest.layout_of_lookup? found, exists_plan_iff, allows_iff]
  constructor
  · intro lifts
    exact ⟨⟨lifts.scalar, lifts.vector⟩, lifts.notBitfield, lifts.immediate⟩
  · rintro ⟨⟨scalar, vector⟩, notBitfield, immediate⟩
    exact ⟨notBitfield, scalar, vector, immediate⟩

/-! ## Words -/

theorem liftWord_of_accepts (accepts : settings.Accepts word) :
    (liftWord settings address word).result = .ok () := by
  cases found : Guest.lookup? word with
  | none =>
      rcases accepts with ⟨row, member, isMatch, _⟩
      rw [lookup?_eq_none_iff.mp found row member] at isMatch
      cases isMatch
  | some row =>
      rw [accepts_iff_of_found found, lifts_iff found] at accepts
      rcases accepts with ⟨allowed, plan, planned⟩
      rw [(liftWord_of_plan found allowed planned).2]
      exact (Lifting.sound_of_plan planned).result

theorem liftWord_of_refuses {error : LiftError} (refuses : settings.Refuses address word error) :
    (liftWord settings address word).code = [] ∧
    (liftWord settings address word).result = .error error := by
  cases refuses with
  | unknown absent => exact liftWord_of_not_found (lookup?_eq_none_iff.mpr absent)
  | @unsupported row found refused =>
      rw [lifts_iff found, not_and_or] at refused
      apply liftWord_of_not_planned found
      rcases refused with disallowed | unplanned
      · exact .inl (Bool.eq_false_iff.mpr disallowed)
      · exact .inr (Option.eq_none_iff_forall_ne_some.mpr (not_exists.mp unplanned))

theorem liftWord_ok_iff :
    (liftWord settings address word).result = .ok () ↔ settings.Accepts word := by
  refine ⟨fun lifted => ?_, liftWord_of_accepts⟩
  rcases accepts_or_refuses settings address word with accepts | ⟨error, refuses⟩
  · exact accepts
  · rw [(liftWord_of_refuses refuses).2] at lifted
    cases lifted

theorem liftWord_error_iff {error : LiftError} :
    (liftWord settings address word).result = .error error ↔
      settings.Refuses address word error := by
  refine ⟨fun failed => ?_, fun refuses => (liftWord_of_refuses refuses).2⟩
  rcases accepts_or_refuses settings address word with accepts | ⟨other, refuses⟩
  · rw [liftWord_of_accepts accepts] at failed
    cases failed
  · rw [(liftWord_of_refuses refuses).2] at failed
    cases failed
    exact refuses

theorem code_eq_nil_of_error {error : LiftError}
    (failed : (liftWord settings address word).result = .error error) :
    (liftWord settings address word).code = [] :=
  (liftWord_of_refuses (liftWord_error_iff.mp failed)).1

end Words

/-! ## Blocks -/

theorem accepts_all_or_refuses_first (settings : Settings) (address : Address) :
    ∀ (words : List Word) (index : Nat),
      (∀ word ∈ words, settings.Accepts word) ∨
        ∃ before word after error, words = before ++ word :: after ∧
          (∀ earlier ∈ before, settings.Accepts earlier) ∧
          settings.Refuses (wordAddress address (index + before.length)) word error
  | [], _ => .inl (by simp)
  | word :: rest, index => by
      rcases accepts_or_refuses settings (wordAddress address index) word with
        accepts | ⟨error, refuses⟩
      · rcases accepts_all_or_refuses_first settings address rest (index + 1) with
          all | ⟨before, refused, after, error, rfl, accepted, refuses⟩
        · exact .inl (List.forall_mem_cons.mpr ⟨accepts, all⟩)
        · refine .inr ⟨word :: before, refused, after, error, rfl,
            List.forall_mem_cons.mpr ⟨accepts, accepted⟩, ?_⟩
          rw [List.length_cons, Nat.add_comm before.length, ← Nat.add_assoc]
          exact refuses
      · exact .inr ⟨[], word, rest, error, rfl, by simp, refuses⟩

section Blocks

variable {settings : Settings} {address : Address}

theorem liftFrom_of_accepts :
    ∀ (words : List Word) (index : Nat), (∀ word ∈ words, settings.Accepts word) →
      (liftFrom settings address index words).result = .ok (index + words.length)
  | [], _, _ => rfl
  | word :: rest, index, accepts => by
      rcases List.forall_mem_cons.mp accepts with ⟨first, others⟩
      rw [liftFrom_cons (liftWord_of_accepts first), List.length_cons, Nat.add_comm rest.length,
        ← Nat.add_assoc]
      exact liftFrom_of_accepts rest (index + 1) others

/-- A block ends at the first word that is refused; this word adds a piece of code that is
empty. -/
theorem liftFrom_of_refuses {word : Word} {error : LiftError} (after : List Word) :
    ∀ (before : List Word) (index : Nat), (∀ earlier ∈ before, settings.Accepts earlier) →
      settings.Refuses (wordAddress address (index + before.length)) word error →
        (liftFrom settings address index (before ++ word :: after)).result = .error error ∧
        (liftFrom settings address index (before ++ word :: after)).segments =
          (liftFrom settings address index before).segments ++ [[]]
  | [], index, _, refuses => by
      rcases liftWord_of_refuses refuses with ⟨code, result⟩
      simp only [List.length_nil, Nat.add_zero] at code result
      simp only [List.nil_append, liftFrom, result, code, and_self]
  | first :: before, index, accepts, refuses => by
      rcases List.forall_mem_cons.mp accepts with ⟨accepted, others⟩
      rw [List.length_cons, Nat.add_comm before.length, ← Nat.add_assoc] at refuses
      rcases liftFrom_of_refuses after before (index + 1) others refuses with ⟨result, segments⟩
      rw [List.cons_append, liftFrom_cons (liftWord_of_accepts accepted),
        liftFrom_cons (liftWord_of_accepts accepted)]
      refine ⟨result, ?_⟩
      rw [segments, List.cons_append]

end Blocks

/-- Exactly the words of enabled classes are lifted that are neither on bitfields nor
immediates that modify their destination. Any other word is refused as unknown if no row
matches it, and as unsupported if one does; no configuration is unsupported, and a builder
is as it was before the word. A block of accepted words is lifted as a whole. Any other
block ends in the error of its first word that is refused, at the address of this word,
which wraps around, and leaves what the words before it leave. -/
theorem liftBlock_outcome (settings : Settings) (address : Address) :
    (∀ word,
      ((liftWord settings address word).result = .ok () ↔ settings.Accepts word) ∧
      (∀ error, (liftWord settings address word).result = .error error ↔
        settings.Refuses address word error) ∧
      (∀ registers, (liftWord settings address word).result ≠
        .error (.unsupportedConfiguration registers)) ∧
      ∀ error, (liftWord settings address word).result = .error error →
        ∀ {β : Type} [CodeBuilder β] (builder : β),
          CodeBuilder.append builder (liftWord settings address word).code = builder) ∧
    ∀ words,
      ((∀ word ∈ words, settings.Accepts word) ∧
        (liftBlock settings address words).result = .ok words.length) ∨
      ∃ before word after error,
        words = before ++ word :: after ∧
        (∀ earlier ∈ before, settings.Accepts earlier) ∧
        settings.Refuses (address + BitVec.ofNat 64 (4 * before.length)) word error ∧
        (liftBlock settings address words).result = .error error ∧
        ∀ {β : Type} [CodeBuilder β] (builder : β),
          CodeBuilder.appendAll builder (liftBlock settings address words).segments =
            CodeBuilder.appendAll builder (liftBlock settings address before).segments := by
  constructor
  · intro word
    refine ⟨liftWord_ok_iff, fun error => liftWord_error_iff, ?_, ?_⟩
    · intro registers failed
      cases liftWord_error_iff.mp failed
    · intro error failed β _ builder
      rw [code_eq_nil_of_error failed]
      rfl
  · intro words
    rcases accepts_all_or_refuses_first settings address words 0 with
      accepts | ⟨before, word, after, error, rfl, accepts, refuses⟩
    · have result : (liftBlock settings address words).result = .ok (0 + words.length) :=
        liftFrom_of_accepts words 0 accepts
      rw [Nat.zero_add] at result
      exact .inl ⟨accepts, result⟩
    · rcases liftFrom_of_refuses after before 0 accepts refuses with ⟨result, segments⟩
      rw [Nat.zero_add] at refuses
      refine .inr ⟨before, word, after, error, rfl, accepts, refuses, result, ?_⟩
      intro β _ builder
      rw [liftBlock, segments, CodeBuilder.appendAll, List.foldl_append]
      rfl

/-- The word behind the last address is at address zero. -/
example : (liftBlock {} (-4) [0xf2042d46, 0]).result = .error (.unknownInstruction 0 0) := by
  decide

end LaneLift
