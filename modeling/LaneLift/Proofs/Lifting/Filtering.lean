import LaneLift.Proofs.Lifting.Acceptance
import LaneLift.Proofs.Settings.Changes

/-!
# Settings as a filter

Settings do nothing to lifting but turn words off: a word of a layout whose switch is off is
refused, and every other word is lifted as it is by default. A block goes on as by default up to
the first word that is turned off.
-/

namespace LaneLift

open Guest (Address Layout Row Word)
open Lane (CodeBuilder)

def Guest.Layout.setting? : Layout → Option Setting
  | .vectorPair | .vectorTriple | .vectorImmediate => some .neon
  | .scalarPair | .scalarTriple => some .vfp
  | .bitfield => none

namespace Settings

def TurnsOff (settings : Settings) (word : Word) : Prop :=
  ∃ row setting, Guest.lookup? word = some row ∧
    row.descriptor.layout.setting? = some setting ∧ settings.get setting = false

variable {settings other : Settings} {address : Address} {word : Word} {row : Row}

theorem allows_eq_false_iff (found : Guest.lookup? word = some row) :
    settings.allows row.descriptor.mnemonic = false ↔ settings.TurnsOff word := by
  have switch : settings.allows row.descriptor.mnemonic = false ↔
      ∃ setting, row.descriptor.layout.setting? = some setting ∧
        settings.get setting = false := by
    rw [Guest.layout_of_lookup? found, allows]
    cases row.descriptor.mnemonic <;>
      simp [Guest.Mnemonic.isScalar, Guest.Mnemonic.isVector, Guest.Mnemonic.isBitfield,
        Guest.Mnemonic.layout, Layout.setting?, get]
  rw [switch]
  constructor
  · rintro ⟨setting, isSetting, off⟩
    exact ⟨row, setting, found, isSetting, off⟩
  · rintro ⟨same, setting, foundSame, isSetting, off⟩
    cases Option.some.inj (found.symm.trans foundSame)
    exact ⟨setting, isSetting, off⟩

theorem allows_congr (neon : settings.neon = other.neon) (vfp : settings.vfp = other.vfp) :
    settings.allows = other.allows := by
  funext mnemonic
  rw [allows, allows, neon, vfp]

end Settings

section Words

variable {settings other : Settings} {address : Address} {word : Word} {row : Row}

theorem liftWord_congr
    (same : ∀ row, Guest.lookup? word = some row →
      settings.allows row.descriptor.mnemonic = other.allows row.descriptor.mnemonic) :
    liftWord settings address word = liftWord other address word := by
  cases found : Guest.lookup? word with
  | none => rw [liftWord, liftWord, found]
  | some row =>
      have sameMnemonic : (row.descriptor.decode address word).mnemonic =
          row.descriptor.mnemonic := rfl
      simp only [liftWord, found, sameMnemonic, same row found]

theorem liftWord_of_turnsOff (off : settings.TurnsOff word) :
    (liftWord settings address word).code = [] ∧
    ∃ row, Guest.lookup? word = some row ∧ (liftWord settings address word).result =
      .error (.unsupportedInstruction address word row.descriptor.mnemonic) := by
  rcases off with ⟨row, setting, found, isSetting, off⟩
  have disallowed := (Settings.allows_eq_false_iff found).mpr ⟨row, setting, found, isSetting, off⟩
  rcases liftWord_of_not_planned found (.inl disallowed) with ⟨code, refused⟩
  exact ⟨code, row, found, refused⟩

theorem liftWord_of_not_turnsOff (on : ¬settings.TurnsOff word) :
    liftWord settings address word = liftWord {} address word := by
  apply liftWord_congr
  intro row found
  rw [Settings.allows_default, ← Bool.not_eq_false, Settings.allows_eq_false_iff found]
  exact on

end Words

/-! ## Blocks -/

section Blocks

variable {settings other : Settings} {address : Address}

theorem liftFrom_congr : ∀ (words : List Word) (index : Nat),
    (∀ word ∈ words, ∀ address, liftWord settings address word = liftWord other address word) →
      liftFrom settings address index words = liftFrom other address index words
  | [], _, _ => rfl
  | word :: rest, index, same => by
      have first := same word List.mem_cons_self (wordAddress address index)
      have behind := liftFrom_congr rest (index + 1)
        fun later member => same later (List.mem_cons_of_mem word member)
      simp only [liftFrom, first, behind]

theorem liftFrom_append_of_error {error : LiftError} (second : List Word) :
    ∀ (first : List Word) (index : Nat),
      (liftFrom settings address index first).result = .error error →
        liftFrom settings address index (first ++ second) =
          liftFrom settings address index first
  | [], _, failed => by cases failed
  | word :: rest, index, failed => by
      cases lifted : (liftWord settings (wordAddress address index) word).result with
      | error own => simp only [List.cons_append, liftFrom, lifted]
      | ok _ =>
          rw [liftFrom_cons lifted] at failed
          rw [List.cons_append, liftFrom_cons lifted, liftFrom_cons lifted,
            liftFrom_append_of_error second rest (index + 1) failed]

theorem liftFrom_append_of_ok {count : Nat} (second : List Word) :
    ∀ (first : List Word) (index : Nat),
      (liftFrom settings address index first).result = .ok count →
        (liftFrom settings address index (first ++ second)).result =
          (liftFrom settings address (index + first.length) second).result ∧
        (liftFrom settings address index (first ++ second)).segments =
          (liftFrom settings address index first).segments ++
            (liftFrom settings address (index + first.length) second).segments
  | [], _, _ => ⟨rfl, rfl⟩
  | word :: rest, index, accepted => by
      have lifted := liftWord_of_liftFrom accepted
      rw [liftFrom_cons lifted] at accepted
      rcases liftFrom_append_of_ok second rest (index + 1) accepted with ⟨result, segments⟩
      rw [List.cons_append, liftFrom_cons lifted, liftFrom_cons lifted, List.length_cons,
        Nat.add_comm rest.length, ← Nat.add_assoc]
      refine ⟨result, ?_⟩
      rw [segments, List.cons_append]

theorem liftBlock_of_not_turnsOff {words : List Word}
    (on : ∀ word ∈ words, ¬settings.TurnsOff word) :
    liftBlock settings address words = liftBlock {} address words :=
  liftFrom_congr words 0 fun word member _ => liftWord_of_not_turnsOff (on word member)

theorem liftBlock_of_turnsOff {before after : List Word} {word : Word}
    (on : ∀ earlier ∈ before, ¬settings.TurnsOff earlier) (off : settings.TurnsOff word) :
    (∀ error, (liftBlock {} address before).result = .error error →
      (liftBlock settings address (before ++ word :: after)).result = .error error) ∧
    (∀ count, (liftBlock {} address before).result = .ok count →
      ∃ row, Guest.lookup? word = some row ∧
        (liftBlock settings address (before ++ word :: after)).result =
          .error (.unsupportedInstruction (wordAddress address before.length) word
            row.descriptor.mnemonic)) ∧
    ∀ {β : Type} [CodeBuilder β] (builder : β),
      CodeBuilder.appendAll builder
          (liftBlock settings address (before ++ word :: after)).segments =
        CodeBuilder.appendAll builder (liftBlock {} address before).segments := by
  rw [← liftBlock_of_not_turnsOff on]
  cases ended : (liftBlock settings address before).result with
  | error error =>
      have same : liftBlock settings address (before ++ word :: after) =
          liftBlock settings address before :=
        liftFrom_append_of_error (word :: after) before 0 ended
      rw [same, ended]
      refine ⟨fun _ failed => failed, ?_, fun builder => rfl⟩
      intro count accepted
      cases accepted
  | ok count =>
      rcases liftFrom_append_of_ok (word :: after) before 0 ended with ⟨result, segments⟩
      rw [Nat.zero_add] at result segments
      have emptied := @liftWord_of_turnsOff settings (wordAddress address before.length) word off
      rcases emptied with ⟨code, row, found, refused⟩
      refine ⟨?_, fun _ _ => ⟨row, found, ?_⟩, ?_⟩
      · intro error failed
        cases failed
      · rw [liftBlock, result]
        simp only [liftFrom, refused]
      · intro β _ builder
        rw [liftBlock, segments]
        simp only [liftFrom, refused, code, CodeBuilder.appendAll, List.foldl_append]
        rfl

end Blocks

/-- A failing change leaves all switches as they are, and fails for its name before it fails for
its value; every switch is as the last change of it that has succeeded leaves it, or as by
default. What is lifted, and how it ends, depends on two of the switches. A word in a row of
Advanced SIMD or of VFP is refused, and nothing is emitted, if the switch of these is off; any
other word is lifted as by default, and so is a block up to the first word that is refused
thus. -/
theorem liftBlock_filtered (changes : List SettingChange) :
    let settings := (SwitchRow.initial.changeAll changes).settings
    settings = ({} : Settings).changeAll changes ∧
    (∀ (row : SwitchRow) (change : SettingChange) (error : SettingError),
      ((row.change change).1 = .error error ↔ change.Fails error) ∧
      ((row.change change).1 = .error error → (row.change change).2 = row)) ∧
    (∀ setting : Setting, setting.LastWritten changes (settings.get setting)) ∧
    ∀ address,
      (∀ other : Settings, other.neon = settings.neon → other.vfp = settings.vfp →
        ∀ words, liftBlock other address words = liftBlock settings address words) ∧
      (∀ word,
        (settings.TurnsOff word →
          (liftWord settings address word).code = [] ∧
          ∃ row, Guest.lookup? word = some row ∧ (liftWord settings address word).result =
            .error (.unsupportedInstruction address word row.descriptor.mnemonic)) ∧
        (¬settings.TurnsOff word →
          liftWord settings address word = liftWord {} address word)) ∧
      (∀ words, (∀ word ∈ words, ¬settings.TurnsOff word) →
        liftBlock settings address words = liftBlock {} address words) ∧
      ∀ before word after, (∀ earlier ∈ before, ¬settings.TurnsOff earlier) →
        settings.TurnsOff word →
        (∀ error, (liftBlock {} address before).result = .error error →
          (liftBlock settings address (before ++ word :: after)).result = .error error) ∧
        (∀ count, (liftBlock {} address before).result = .ok count →
          ∃ row, Guest.lookup? word = some row ∧
            (liftBlock settings address (before ++ word :: after)).result =
              .error (.unsupportedInstruction (wordAddress address before.length) word
                row.descriptor.mnemonic)) ∧
        ∀ {β : Type} [CodeBuilder β] (builder : β),
          CodeBuilder.appendAll builder
              (liftBlock settings address (before ++ word :: after)).segments =
            CodeBuilder.appendAll builder (liftBlock {} address before).segments := by
  intro settings
  have isSettings : settings = ({} : Settings).changeAll changes :=
    SwitchRow.settings_changeAll .initial changes
  refine ⟨isSettings, ?_, ?_, ?_⟩
  · intro row change error
    refine ⟨SwitchRow.change_error_iff, fun failed => ?_⟩
    rw [SwitchRow.change_of_fails (SwitchRow.change_error_iff.mp failed)]
  · intro setting
    rw [isSettings]
    exact Settings.get_changeAll changes setting
  · intro address
    refine ⟨?_, ?_, ?_, ?_⟩
    · intro other neon vfp words
      have same := Settings.allows_congr neon vfp
      exact liftFrom_congr words 0 fun word _ _ =>
        liftWord_congr fun row _ => congrFun same row.descriptor.mnemonic
    · exact fun word => ⟨liftWord_of_turnsOff, liftWord_of_not_turnsOff⟩
    · exact fun words => liftBlock_of_not_turnsOff
    · exact fun before word after => liftBlock_of_turnsOff

/-- VFP is turned off, in spite of a bad word and of an unknown name behind. -/
private def scalarOff : List SettingChange :=
  [.set "enable_vfp" "off", .set "enable_neon" "no", .set "enable_vfp" "maybe",
    .set "enable_sve" "maybe", .enable "enable_neon"]

/-- `vadd.f32 s1, s2, s3` behind `vadd.f32 q1, q2, q3`. -/
theorem liftBlock_filtered_scalar :
    let settings := (SwitchRow.initial.changeAll scalarOff).settings
    settings.TurnsOff 0xee710a21 ∧ ¬settings.TurnsOff 0xf2042d46 ∧
    (SettingChange.set "enable_sve" "maybe").Fails (.unknownName "enable_sve") ∧
    (liftBlock settings 0x1000 [0xf2042d46, 0xee710a21, 0]).result =
      .error (.unsupportedInstruction 0x1004 0xee710a21 .vaddS) := by
  intro settings
  rcases liftBlock_filtered scalarOff with ⟨_, fails, _, lifts⟩
  have scalarFound : Guest.lookup? 0xee710a21 = some
      ⟨0xffb00e50, 0xee300a00, .vaddS, .scalarTriple⟩ := by rfl
  have vectorFound : Guest.lookup? 0xf2042d46 = some
      ⟨0xffa00f10, 0xf2000d00, .vaddV, .vectorTriple⟩ := by rfl
  have off : settings.TurnsOff 0xee710a21 := ⟨_, .vfp, scalarFound, rfl, by decide⟩
  have on : ¬settings.TurnsOff 0xf2042d46 := by
    rintro ⟨row, setting, found, isSetting, off⟩
    cases Option.some.inj (vectorFound.symm.trans found)
    cases isSetting
    exact absurd off (by decide)
  rcases lifts 0x1000 with ⟨_, _, _, ends⟩
  rcases ends [0xf2042d46] 0xee710a21 [0] (by simpa using on) off with ⟨_, refused, _⟩
  rcases refused 1 (by decide) with ⟨row, found, result⟩
  cases Option.some.inj (scalarFound.symm.trans found)
  exact ⟨off, on, (fails .initial _ _).1.mp (by decide), result⟩

end LaneLift
