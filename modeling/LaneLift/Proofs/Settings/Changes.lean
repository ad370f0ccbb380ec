import LaneLift.Settings
import Mathlib.Data.List.Induction

/-!
# Changing settings

Switches are changed by name, any number of times, and the names and the words that they are set
to can be anything. A change that fails leaves every switch as it is, and a switch is as the
last change of it that has succeeded leaves it.

The same holds of switches that are kept in a row and changed in place, where a failing change
could leave something behind.
-/

namespace LaneLift

namespace Setting

theorem named?_eq_some_iff {name : String} {setting : Setting} :
    named? name = some setting ↔ setting.name = name := by
  constructor
  · intro found
    have holds := List.find?_some found
    exact of_decide_eq_true holds
  · rintro rfl
    cases setting <;> rfl

theorem named?_eq_none_iff {name : String} :
    named? name = none ↔ ∀ setting : Setting, setting.name ≠ name := by
  rw [Option.eq_none_iff_forall_ne_some]
  exact forall_congr' fun setting => not_congr named?_eq_some_iff

end Setting

inductive SettingChange where
  | set (name value : String)
  | enable (name : String)
  deriving DecidableEq, Repr

namespace SettingChange

def name : SettingChange → String
  | .set name _ | .enable name => name

inductive Writes : SettingChange → Setting → Bool → Prop
  | set {setting : Setting} {value : String} {flag : Bool} :
      parseBoolean? value = some flag → Writes (.set setting.name value) setting flag
  | enable {setting : Setting} : Writes (.enable setting.name) setting true

/-- The change fails: there is no switch of this name, whatever it is to be set to, or there is
one and the word is none for a flag. -/
inductive Fails : SettingChange → SettingError → Prop
  | setUnknown {name value : String} : (∀ setting : Setting, setting.name ≠ name) →
      Fails (.set name value) (.unknownName name)
  | enableUnknown {name : String} : (∀ setting : Setting, setting.name ≠ name) →
      Fails (.enable name) (.unknownName name)
  | notBoolean {setting : Setting} {value : String} : parseBoolean? value = none →
      Fails (.set setting.name value) .notBoolean

theorem writes_or_fails (change : SettingChange) :
    (∃ setting flag, change.Writes setting flag) ∨ ∃ error, change.Fails error := by
  cases change with
  | set name value =>
      cases found : Setting.named? name with
      | none => exact .inr ⟨_, .setUnknown (Setting.named?_eq_none_iff.mp found)⟩
      | some setting =>
          rw [← Setting.named?_eq_some_iff.mp found]
          cases parsed : parseBoolean? value with
          | none => exact .inr ⟨_, .notBoolean parsed⟩
          | some flag => exact .inl ⟨_, _, .set parsed⟩
  | enable name =>
      cases found : Setting.named? name with
      | none => exact .inr ⟨_, .enableUnknown (Setting.named?_eq_none_iff.mp found)⟩
      | some setting =>
          rw [← Setting.named?_eq_some_iff.mp found]
          exact .inl ⟨_, _, .enable⟩

theorem Writes.named? {change : SettingChange} {setting : Setting} {flag : Bool}
    (writes : change.Writes setting flag) : Setting.named? change.name = some setting := by
  cases writes <;> exact Setting.named?_eq_some_iff.mpr rfl

theorem Writes.eq {change : SettingChange} {setting other : Setting} {flag otherFlag : Bool}
    (writes : change.Writes setting flag) (writesOther : change.Writes other otherFlag) :
    setting = other :=
  Option.some.inj (writes.named?.symm.trans writesOther.named?)

end SettingChange

namespace Settings

def changed (settings : Settings) : SettingChange → Except SettingError Settings
  | .set name value => settings.set name value
  | .enable name => settings.enable name

def change (settings : Settings) (change : SettingChange) : Settings :=
  match settings.changed change with
  | .ok changed => changed
  | .error _ => settings

def changeAll (settings : Settings) (changes : List SettingChange) : Settings :=
  changes.foldl change settings

variable {settings : Settings} {change : SettingChange} {setting : Setting} {flag : Bool}
  {error : SettingError}

theorem changed_of_writes (writes : change.Writes setting flag) :
    settings.changed change = .ok (settings.put setting flag) := by
  cases writes with
  | set parsed => rw [changed, set, Setting.named?_eq_some_iff.mpr rfl, parsed]
  | enable => rw [changed, enable, Setting.named?_eq_some_iff.mpr rfl]

theorem changed_of_fails (fails : change.Fails error) :
    settings.changed change = .error error := by
  cases fails with
  | setUnknown unknown => rw [changed, set, Setting.named?_eq_none_iff.mpr unknown]
  | enableUnknown unknown => rw [changed, enable, Setting.named?_eq_none_iff.mpr unknown]
  | notBoolean unparsed => rw [changed, set, Setting.named?_eq_some_iff.mpr rfl, unparsed]

theorem change_of_writes (writes : change.Writes setting flag) :
    settings.change change = settings.put setting flag := by
  rw [Settings.change, changed_of_writes writes]

theorem change_of_fails (fails : change.Fails error) : settings.change change = settings := by
  rw [Settings.change, changed_of_fails fails]

end Settings

theorem SettingChange.Fails.not_writes {change : SettingChange} {error : SettingError}
    (fails : change.Fails error) {setting : Setting} {flag : Bool} :
    ¬change.Writes setting flag := by
  intro writes
  have failed : ({} : Settings).changed change = .error error := Settings.changed_of_fails fails
  rw [Settings.changed_of_writes writes] at failed
  cases failed

/-! ## The last change that succeeds -/

inductive Setting.LastWritten (setting : Setting) : List SettingChange → Bool → Prop
  | default {changes : List SettingChange} :
      (∀ change ∈ changes, ∀ flag, ¬change.Writes setting flag) →
      LastWritten setting changes setting.default
  | written {before after : List SettingChange} {change : SettingChange} {flag : Bool} :
      change.Writes setting flag →
      (∀ later ∈ after, ∀ other, ¬later.Writes setting other) →
      LastWritten setting (before ++ change :: after) flag

namespace Setting.LastWritten

variable {setting : Setting} {changes : List SettingChange} {change : SettingChange} {flag : Bool}

theorem append (last : setting.LastWritten changes flag)
    (spares : ∀ other, ¬change.Writes setting other) :
    setting.LastWritten (changes ++ [change]) flag := by
  cases last with
  | default never =>
      refine .default fun one member => ?_
      rcases List.mem_append.mp member with earlier | isLast
      · exact never one earlier
      · rw [List.mem_singleton.mp isLast]
        exact spares
  | written writes later =>
      rw [List.append_assoc, List.cons_append]
      refine .written writes fun one member => ?_
      rcases List.mem_append.mp member with earlier | isLast
      · exact later one earlier
      · rw [List.mem_singleton.mp isLast]
        exact spares

end Setting.LastWritten

theorem Settings.get_changeAll (changes : List SettingChange) (setting : Setting) :
    setting.LastWritten changes ((({} : Settings).changeAll changes).get setting) := by
  induction changes using List.reverseRecOn with
  | nil =>
      have isDefault : ({} : Settings).get setting = setting.default := by cases setting <;> rfl
      rw [changeAll, List.foldl_nil, isDefault]
      exact .default (by simp)
  | append_singleton changes change induction =>
      rw [changeAll, List.foldl_append, List.foldl_cons, List.foldl_nil, ← changeAll]
      rcases change.writes_or_fails with ⟨other, flag, writes⟩ | ⟨error, fails⟩
      · rw [change_of_writes writes, get_put]
        by_cases same : other = setting
        · subst same
          rw [if_pos rfl]
          exact .written writes (by simp)
        · rw [if_neg same]
          exact induction.append fun _ writesSetting => same (writes.eq writesSetting)
      · rw [change_of_fails fails]
        exact induction.append fun _ => fails.not_writes

/-! ## Switches in a row -/

abbrev SwitchRow := Vector Bool Setting.all.length

namespace SwitchRow

/-- A computation that changes switches in place. What it has changed stays changed, should it
fail. -/
abbrev Changing := ExceptT SettingError (StateM SwitchRow)

def initial : SwitchRow :=
  ⟨(Setting.all.map Setting.default).toArray, rfl⟩

def position (name : String) : Changing (Fin Setting.all.length) :=
  match Setting.all.findFinIdx? fun setting => setting.name = name with
  | some position => pure position
  | none => throw (.unknownName name)

def flag (value : String) : Changing Bool :=
  match parseBoolean? value with
  | some flag => pure flag
  | none => throw .notBoolean

def perform : SettingChange → Changing Unit
  | .set name value => do
      let position ← position name
      let flag ← flag value
      modify fun row => row.set position flag
  | .enable name => do
      let position ← position name
      modify fun row => row.set position true

def change (row : SwitchRow) (change : SettingChange) : Except SettingError Unit × SwitchRow :=
  (perform change).run.run row

def changeAll (row : SwitchRow) (changes : List SettingChange) : SwitchRow :=
  changes.foldl (fun row change => (row.change change).2) row

def place : Setting → Fin Setting.all.length
  | .neon => ⟨0, by decide⟩
  | .vfp => ⟨1, by decide⟩
  | .verifier => ⟨2, by decide⟩

def settings (row : SwitchRow) : Settings where
  neon := row[place .neon]
  vfp := row[place .vfp]
  verifier := row[place .verifier]

example : (initial.change (.set "enable_vfp" "off")).2.settings = { vfp := false } := by decide

variable {row : SwitchRow} {change : SettingChange} {setting : Setting} {flag : Bool}
  {error : SettingError}

theorem findFinIdx?_name (setting : Setting) :
    Setting.all.findFinIdx? (fun other => other.name = setting.name) = some (place setting) := by
  cases setting <;> rfl

theorem position_of_unknown {name : String} (unknown : ∀ setting : Setting, setting.name ≠ name) :
    position name = throw (.unknownName name) := by
  have absent : Setting.all.findFinIdx? (fun setting => setting.name = name) = none :=
    List.findFinIdx?_eq_none_iff.mpr fun setting _ => by simpa using unknown setting
  rw [position, absent]

theorem position_name (setting : Setting) : position setting.name = pure (place setting) := by
  rw [position, findFinIdx?_name]

theorem change_of_writes (writes : change.Writes setting flag) :
    row.change change = (.ok (), row.set (place setting) flag) := by
  cases writes with
  | set parsed =>
      rw [SwitchRow.change, perform, position_name, SwitchRow.flag, parsed]
      rfl
  | enable =>
      rw [SwitchRow.change, perform, position_name]
      rfl

theorem change_of_fails (fails : change.Fails error) : row.change change = (.error error, row) := by
  cases fails with
  | setUnknown unknown =>
      rw [SwitchRow.change, perform, position_of_unknown unknown]
      rfl
  | enableUnknown unknown =>
      rw [SwitchRow.change, perform, position_of_unknown unknown]
      rfl
  | notBoolean unparsed =>
      rw [SwitchRow.change, perform, position_name, SwitchRow.flag, unparsed]
      rfl

theorem settings_set (setting : Setting) (flag : Bool) :
    settings (row.set (place setting) flag) = row.settings.put setting flag := by
  cases setting <;> simp [settings, place, Settings.put]

theorem settings_change : (row.change change).2.settings = row.settings.change change := by
  rcases change.writes_or_fails with ⟨setting, flag, writes⟩ | ⟨error, fails⟩
  · rw [change_of_writes writes, Settings.change_of_writes writes, settings_set]
  · rw [change_of_fails fails, Settings.change_of_fails fails]

theorem settings_changeAll (row : SwitchRow) (changes : List SettingChange) :
    (row.changeAll changes).settings = row.settings.changeAll changes := by
  induction changes generalizing row with
  | nil => rfl
  | cons change changes induction =>
      rw [changeAll, List.foldl_cons, ← changeAll, induction, settings_change]
      rfl

theorem change_error_iff : (row.change change).1 = .error error ↔ change.Fails error := by
  refine ⟨fun failed => ?_, fun fails => by rw [change_of_fails fails]⟩
  rcases change.writes_or_fails with ⟨setting, flag, writes⟩ | ⟨other, fails⟩
  · rw [change_of_writes writes] at failed
    cases failed
  · rw [change_of_fails fails] at failed
    cases failed
    exact fails

end SwitchRow

end LaneLift
