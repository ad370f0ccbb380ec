import LaneLift.Proofs.Lane.Stopping

/-!
# Functions one behind the other

The pushes of a function can be put behind those of another, with the operands numbered on from the
values of the first. The first function is then run, and the second over the registers that it
leaves. The operands of the second never hit a value of the first, also those that were not made.
-/

namespace LaneLift.Lane

def RunError.shift (positions values : Nat) : RunError → RunError
  | .bankOutOfRange bank => .bankOutOfRange bank
  | .undefinedValue value => .undefinedValue (value + values)
  | .invalidType position opcode type => .invalidType (position + positions) opcode type
  | .laneOutOfRange position type lane => .laneOutOfRange (position + positions) type lane

def Outcome.shift (positions values : Nat) (outcome : Outcome) : Outcome where
  registers := outcome.registers
  status := outcome.status.mapError (RunError.shift positions values)

def Outcome.andThen (outcome : Outcome) (next : RegisterFile → Outcome) : Outcome :=
  match outcome.status with
  | .ok _ => next outcome.registers
  | .error _ => outcome

theorem Except.bind_eq_mapError {ε δ α β : Type} {rename : ε → δ} {action : Except ε α}
    {renamed : Except δ α} {next : α → Except ε β} {nextRenamed : α → Except δ β}
    (same : renamed = action.mapError rename)
    (later : ∀ value, nextRenamed value = (next value).mapError rename) :
    renamed >>= nextRenamed = (action >>= next).mapError rename := by
  subst same
  cases action with
  | error error => rfl
  | ok value => exact later value

/-! ## Instructions -/

section Shift

variable (positions values : Nat)

def Values.Shifts (inner outer : Values) : Prop :=
  ∀ value, outer (value + values) = inner value

variable {inner outer : Values}

theorem operand_shift {values : Nat} (shifts : Values.Shifts values inner outer) (value : Nat) :
    operand outer (value + values) =
      (operand inner value).mapError (RunError.shift positions values) := by
  rw [operand, operand, shifts]
  cases inner value <;> rfl

theorem imageOperand_shift (position : Nat) (opcode : Opcode) (datum : Datum) :
    imageOperand (position + positions) opcode datum =
      (imageOperand position opcode datum).mapError (RunError.shift positions values) := by
  cases datum <;> rfl

theorem laneType_shift (position : Nat) (opcode : Opcode) (type : ValueType) (lane : Nat) :
    laneType (position + positions) opcode type lane =
      (laneType position opcode type lane).mapError (RunError.shift positions values) := by
  cases type with
  | image => rfl
  | scalar scalar =>
      rw [laneType, laneType]
      split <;> rfl

theorem makeOr_shift (position : Nat) (opcode : Opcode) (type : ValueType)
    (made : Option Datum) :
    makeOr (position + positions) opcode type made =
      (makeOr position opcode type made).mapError (RunError.shift positions values) := by
  cases made <;> rfl

theorem Instruction.effect_shift [FloatArithmetic] (shifts : Values.Shifts values inner outer)
    (position : Nat)
    (registers : RegisterFile) (instruction : Instruction) :
    (instruction.rename (· + values)).effect (position + positions) outer registers =
      (instruction.effect position inner registers).mapError
        (RunError.shift positions values) := by
  cases instruction with
  | getBank bank =>
      simp only [rename, effect]
      cases registers.bank? bank <;> rfl
  | setBank bank image =>
      apply Except.bind_eq_mapError (operand_shift positions shifts image)
      intro datum
      apply Except.bind_eq_mapError (imageOperand_shift positions values position _ datum)
      intro content
      by_cases inside : bank < bankCount
      · rw [dif_pos inside]
        rfl
      · rw [dif_neg inside]
        rfl
  | extractLane type image lane =>
      apply Except.bind_eq_mapError (operand_shift positions shifts image)
      intro datum
      apply Except.bind_eq_mapError (imageOperand_shift positions values position _ datum)
      intro content
      apply Except.bind_eq_mapError (laneType_shift positions values position _ type lane)
      intro scalar
      rfl
  | insertLane type image value lane =>
      apply Except.bind_eq_mapError (operand_shift positions shifts image)
      intro datum
      apply Except.bind_eq_mapError (imageOperand_shift positions values position _ datum)
      intro content
      apply Except.bind_eq_mapError (operand_shift positions shifts value)
      intro inserted
      apply Except.bind_eq_mapError (laneType_shift positions values position _ type lane)
      intro scalar
      cases inserted <;> rfl
  | iconst type immediate => exact makeOr_shift positions values position _ type _
  | f32const pattern => rfl
  | f64const pattern => rfl
  | extend opcode type argument =>
      rw [rename, effect_extend, effect_extend]
      apply Except.bind_eq_mapError (operand_shift positions shifts argument)
      intro datum
      cases (if opcode = .sextend then datum.signed? else datum.unsigned?) with
      | none => rfl
      | some bits => exact makeOr_shift positions values position _ type _
  | unary opcode argument =>
      apply Except.bind_eq_mapError (operand_shift positions shifts argument)
      intro datum
      exact makeOr_shift positions values position _ datum.type _
  | binary opcode left right =>
      apply Except.bind_eq_mapError (operand_shift positions shifts left)
      intro x
      apply Except.bind_eq_mapError (operand_shift positions shifts right)
      intro y
      by_cases same : x.type = y.type
      · rw [if_pos same, if_pos same]
        exact makeOr_shift positions values position _ x.type _
      · rw [if_neg same, if_neg same]
        rfl

/-! ## Entries -/

def Entry.shift (entry : Entry) : Entry where
  instruction := entry.instruction.rename (· + values)
  result := entry.result.map (· + values)

theorem Values.Shifts.define (shifts : Values.Shifts values inner outer) (result : Option Nat)
    (datum : Datum) :
    Values.Shifts values (inner.define result datum)
      (outer.define (result.map (· + values)) datum) := by
  intro value
  cases result with
  | none => exact shifts value
  | some made =>
      rw [Option.map_some, define_some, define_some, shifts]
      simp only [Nat.add_right_cancel_iff]

/-- Entries that stand behind others run as they do on their own. -/
theorem runEntries_shift [FloatArithmetic] (shifts : Values.Shifts values inner outer)
    (position : Nat)
    (registers : RegisterFile) (entries : List Entry) :
    runEntries (position + positions) outer registers (entries.map (Entry.shift values)) =
      (runEntries position inner registers entries).shift positions values := by
  induction entries generalizing position inner outer registers with
  | nil => rfl
  | cons entry rest induction =>
      rw [List.map_cons, runEntries, runEntries, Entry.shift,
        entry.instruction.effect_shift positions values shifts, Nat.add_right_comm]
      cases entry.instruction.effect position inner registers with
      | error error => rfl
      | ok effect =>
          cases effect with
          | make datum => exact induction (shifts.define values _ datum) _ _
          | commit bank image => exact induction shifts _ _

end Shift

/-! ## Functions -/

def Push.shift (values : Nat) (push : Push) : Push where
  instruction := push.instruction.rename (· + values)
  result := push.result

theorem Push.entriesFrom_shift (values count : Nat) (pushes : List Push) :
    entriesFrom (count + values) (pushes.map (shift values)) =
      (entriesFrom count pushes).map (Entry.shift values) := by
  induction pushes generalizing count with
  | nil => rfl
  | cons push rest induction =>
      rcases push with ⟨instruction, _ | type⟩
      · rw [List.map_cons, shift, entriesFrom, entriesFrom, List.map_cons, induction]
        rfl
      · rw [List.map_cons, shift, entriesFrom, entriesFrom, List.map_cons, Nat.add_right_comm,
          induction]
        rfl

namespace Function

theorem not_made_of_le [FloatArithmetic] {name : String} {pushes : List Push}
    {registers left : RegisterFile}
    {made : Values}
    (evaluated : (ofPushes name pushes).evaluate registers = .ok (made, left)) {value : Nat}
    (past : (ofPushes name pushes).valueCount ≤ value) : made value = none := by
  rw [← Option.not_isSome_iff_eq_none]
  intro isMade
  rcases (made_evaluateEntries evaluated value).mp isMade with before | ⟨entry, member, declared, _⟩
  · cases before
  · have numbered : value ∈ (ofPushes name pushes).entries.toList.filterMap Entry.result :=
      List.mem_filterMap.mpr ⟨entry, member, declared⟩
    rw [entries_ofPushes, Push.filterMap_result_entriesFrom, ← valueCount_ofPushes name,
      List.mem_range'_1, Nat.zero_add] at numbered
    exact Nat.not_lt_of_le past numbered.2

/-- The pushes of one function behind those of another are run as the one function and then, if
it does not fail, the other. Errors of the second are numbered on like its operands. -/
theorem run_concatenation [FloatArithmetic] (name other whole : String) (first second : List Push)
    (registers : RegisterFile) :
    let front := ofPushes name first
    let back := ofPushes other second
    let joined := ofPushes whole (first ++ second.map (Push.shift front.valueCount))
    joined.run registers =
      (front.run registers).andThen fun left =>
        (back.run left).shift front.size front.valueCount := by
  intro front back joined
  have entries : joined.entries.toList =
      front.entries.toList ++ back.entries.toList.map (Entry.shift front.valueCount) := by
    rw [entries_ofPushes, Push.entriesFrom_append, entries_ofPushes, entries_ofPushes,
      ← Push.entriesFrom_shift, valueCount_ofPushes]
  rw [run, entries, runEntries_append, Nat.zero_add]
  cases evaluated : evaluateEntries 0 Values.empty registers front.entries.toList with
  | error error =>
      have fails : (front.run registers).status = .error error := by
        rw [run, status_runEntries_eq, evaluated]
        rfl
      rw [Outcome.andThen, fails]
      rfl
  | ok result =>
      rcases result with ⟨made, left⟩
      have succeeds : front.run registers = ⟨left, .ok ()⟩ :=
        runEntries_of_evaluateEntries _ evaluated
      have shifts : Values.Shifts front.valueCount Values.empty made := fun value =>
        not_made_of_le evaluated (Nat.le_add_left _ value)
      rw [succeeds, Outcome.andThen, Array.length_toList, ← Nat.zero_add front.entries.size]
      exact runEntries_shift _ _ shifts 0 left _

/-- An operand that the second function does not make is not found among the values of the
first. -/
example :
    let front : List Push := [⟨.getBank 1, some .image⟩]
    let back : List Push := [⟨.setBank 2 0, none⟩]
    ((ofPushes "" (front ++ back.map (Push.shift 1))).run .zero).status =
      .error (.undefinedValue 1) := by
  decide

end Function

end LaneLift.Lane
