import LaneLift.Proofs.Lane.Typing
import Mathlib.Logic.ExistsUnique

/-!
# How runs stop

Instructions that fit nothing can be run too: with operands that do not exist, of types that do not
suit them, with banks and lanes past the last. A run gets through all of its instructions or stops
at the first one that fails. Then the registers are as the instructions before have left them,
and the error tells what is wrong with the instruction. No lane outside of an image is ever
reached for.
-/

namespace LaneLift

namespace Image

/-- As `lane`, for a lane that is cut out of the bytes of the image into 64 bits. -/
def lane? (image : Image) (width index : Nat) : Option (BitVec width) :=
  if width ≤ 64 ∧ width * index + width ≤ 128 then some (image.lane width index) else none

def setLane? (image : Image) {width : Nat} (index : Nat) (value : BitVec width) : Option Image :=
  if width ≤ 64 ∧ width * index + width ≤ 128 then some (image.setLane index value) else none

end Image

namespace Lane

/-! ## Lanes -/

namespace Instruction

def effect? [FloatArithmetic] (position : Nat) (values : Values) (registers : RegisterFile)
    (instruction : Instruction) : ExceptT RunError Option Effect :=
  let opcode := instruction.opcode
  match instruction with
  | .extractLane type image lane => do
      let content ← imageOperand position opcode (← operand values image)
      let scalar ← laneType position opcode type lane
      let pattern ← content.lane? scalar.width lane
      return .make (.scalar scalar pattern)
  | .insertLane type image value lane => do
      let content ← imageOperand position opcode (← operand values image)
      let datum ← operand values value
      let scalar ← laneType position opcode type lane
      match datum.bits? with
      | some bits =>
          let inserted ← content.setLane? lane (bits.setWidth scalar.width)
          return .make (.image inserted)
      | none => throw (.invalidType position opcode datum.type)
  | other => other.effect position values registers

/-- A computation that reaches for nothing goes on as its continuation does. -/
theorem run_lift_bind {ε α β : Type} {action : Except ε α} {checked : α → ExceptT ε Option β}
    {next : α → Except ε β}
    (same : ∀ value, action = .ok value → (checked value).run = some (next value)) :
    ((action : ExceptT ε Option α) >>= checked).run = some (action >>= next) := by
  cases action with
  | error error => rfl
  | ok value => exact same value rfl

theorem laneInside {position : Nat} {opcode : Opcode} {type : ValueType} {lane : Nat}
    {scalar : ScalarType} (checked : laneType position opcode type lane = .ok scalar) :
    scalar.width ≤ 64 ∧ scalar.width * lane + scalar.width ≤ 128 :=
  ⟨scalar.width_le, ScalarType.mul_lane_add_le (laneType_eq_ok.mp checked).2⟩

theorem effect?_eq [FloatArithmetic] (position : Nat) (values : Values) (registers : RegisterFile)
    (instruction : Instruction) :
    (instruction.effect? position values registers).run =
      some (instruction.effect position values registers) := by
  cases instruction with
  | extractLane type image lane =>
      apply run_lift_bind
      intro datum _
      apply run_lift_bind
      intro content _
      apply run_lift_bind
      intro scalar checked
      rw [Image.lane?, if_pos (laneInside checked)]
      rfl
  | insertLane type image value lane =>
      apply run_lift_bind
      intro datum _
      apply run_lift_bind
      intro content _
      apply run_lift_bind
      intro inserted _
      apply run_lift_bind
      intro scalar checked
      cases inserted.bits? with
      | none => rfl
      | some bits =>
          dsimp only
          rw [Image.setLane?, if_pos (laneInside checked)]
          rfl
  | _ => rfl

/-! ## Errors -/

def bank? : Instruction → Option Nat
  | .getBank bank | .setBank bank _ => some bank
  | _ => none

def lane? : Instruction → Option (ValueType × Nat)
  | .extractLane type _ lane | .insertLane type _ _ lane => some (type, lane)
  | _ => none

end Instruction

/-- The error is about the instruction at a position, where these values are made before: it names
a bank of the instruction that there is not, an operand that is not made, or the instruction
itself. -/
inductive RunError.Blames (position : Nat) (instruction : Instruction) (made : Nat → Prop) :
    RunError → Prop
  | bankOutOfRange {bank : Nat} :
      instruction.bank? = some bank → bankCount ≤ bank →
      Blames position instruction made (.bankOutOfRange bank)
  | undefinedValue {value : Nat} :
      value ∈ instruction.operands → ¬made value →
      Blames position instruction made (.undefinedValue value)
  | invalidType {type : ValueType} :
      Blames position instruction made (.invalidType position instruction.opcode type)
  | laneOutOfRange {type : ValueType} {lane : Nat} :
      instruction.lane? = some (type, lane) → type.lanesPerBank ≤ lane →
      Blames position instruction made (.laneOutOfRange position type lane)

theorem Except.bind_eq_error {ε α β : Type} {action : Except ε α} {next : α → Except ε β}
    {error : ε} :
    action >>= next = .error error ↔
      action = .error error ∨ ∃ value, action = .ok value ∧ next value = .error error := by
  cases action <;> simp [bind, Except.bind]

section Errors

variable {position : Nat} {values : Values} {instruction : Instruction} {error : RunError}

def Values.Made (values : Values) (value : Nat) : Prop :=
  (values value).isSome = true

theorem blames_operand {value : Nat} (member : value ∈ instruction.operands)
    (fails : operand values value = .error error) :
    error.Blames position instruction values.Made := by
  rw [operand] at fails
  cases found : values value with
  | some datum => simp [found] at fails
  | none =>
      rw [found] at fails
      cases fails
      exact .undefinedValue member (by simp [Values.Made, found])

theorem blames_imageOperand {datum : Datum}
    (fails : imageOperand position instruction.opcode datum = .error error) :
    error.Blames position instruction values.Made := by
  cases datum with
  | image content => cases fails
  | scalar type pattern =>
      cases fails
      exact .invalidType

theorem blames_makeOr {type : ValueType} {made : Option Datum}
    (fails : makeOr position instruction.opcode type made = .error error) :
    error.Blames position instruction values.Made := by
  cases made with
  | some datum => cases fails
  | none =>
      cases fails
      exact .invalidType

theorem blames_laneType {type : ValueType} {lane : Nat}
    (isLane : instruction.lane? = some (type, lane))
    (fails : laneType position instruction.opcode type lane = .error error) :
    error.Blames position instruction values.Made := by
  cases type with
  | image =>
      cases fails
      exact .invalidType
  | scalar scalar =>
      by_cases inside : lane < scalar.lanesPerBank
      · simp [laneType, inside] at fails
      · simp only [laneType, inside, if_false, Except.error.injEq] at fails
        cases fails
        exact .laneOutOfRange isLane (Nat.le_of_not_lt inside)

theorem Instruction.blames_of_effect [FloatArithmetic] {registers : RegisterFile}
    (fails : instruction.effect position values registers = .error error) :
    error.Blames position instruction values.Made := by
  cases instruction with
  | getBank bank =>
      simp only [effect] at fails
      by_cases inside : bank < bankCount
      · simp [registers.bank?_eq_image inside] at fails
      · have outside : registers.bank? bank = none := by simp [RegisterFile.bank?, inside]
        rw [outside] at fails
        cases fails
        exact .bankOutOfRange rfl (Nat.le_of_not_lt inside)
  | setBank bank image =>
      simp only [effect, Except.bind_eq_error] at fails
      rcases fails with undefined | ⟨datum, _, noImage | ⟨content, _, outside⟩⟩
      · exact blames_operand (List.mem_singleton_self image) undefined
      · exact blames_imageOperand noImage
      · by_cases inside : bank < bankCount
        · simp [inside] at outside
        · simp only [inside, dite_false, Except.error.injEq] at outside
          cases outside
          exact .bankOutOfRange rfl (Nat.le_of_not_lt inside)
  | extractLane type image lane =>
      simp only [effect, Except.bind_eq_error] at fails
      rcases fails with undefined | ⟨datum, _, noImage | ⟨content, _, outside | ⟨_, _, made⟩⟩⟩
      · exact blames_operand (List.mem_singleton_self image) undefined
      · exact blames_imageOperand noImage
      · exact blames_laneType rfl outside
      · cases made
  | insertLane type image value lane =>
      simp only [effect, Except.bind_eq_error] at fails
      rcases fails with undefined | ⟨datum, _, noImage | ⟨content, _, undefined |
        ⟨inserted, _, outside | ⟨_, _, noBits⟩⟩⟩⟩
      · exact blames_operand List.mem_cons_self undefined
      · exact blames_imageOperand noImage
      · exact blames_operand (List.mem_cons_of_mem image List.mem_cons_self) undefined
      · exact blames_laneType rfl outside
      · cases bits : inserted.bits? with
        | some bits => simp [bits] at noBits
        | none =>
            rw [bits] at noBits
            cases noBits
            exact .invalidType
  | iconst type immediate => exact blames_makeOr fails
  | f32const pattern => cases fails
  | f64const pattern => cases fails
  | extend opcode type argument =>
      rw [effect_extend, Except.bind_eq_error] at fails
      rcases fails with undefined | ⟨datum, _, noResult⟩
      · exact blames_operand (List.mem_singleton_self argument) undefined
      · cases wide : (if opcode = .sextend then datum.signed? else datum.unsigned?) with
        | some bits =>
            rw [wide] at noResult
            exact blames_makeOr noResult
        | none =>
            rw [wide] at noResult
            cases noResult
            exact .invalidType
  | unary opcode argument =>
      simp only [effect, Except.bind_eq_error] at fails
      rcases fails with undefined | ⟨datum, _, noResult⟩
      · exact blames_operand (List.mem_singleton_self argument) undefined
      · exact blames_makeOr noResult
  | binary opcode left right =>
      simp only [effect, Except.bind_eq_error] at fails
      rcases fails with undefined | ⟨x, _, undefined | ⟨y, _, noResult⟩⟩
      · exact blames_operand List.mem_cons_self undefined
      · exact blames_operand (List.mem_cons_of_mem left List.mem_cons_self) undefined
      · by_cases same : x.type = y.type
        · rw [if_pos same] at noResult
          exact blames_makeOr noResult
        · rw [if_neg same] at noResult
          cases noResult
          exact .invalidType

end Errors

/-! ## Runs of entries -/

def runEntries? [FloatArithmetic] (position : Nat) (values : Values) (registers : RegisterFile) :
    List Entry → Option Outcome
  | [] => some ⟨registers, .ok ()⟩
  | entry :: rest =>
      match (entry.instruction.effect? position values registers).run with
      | none => none
      | some (.error error) => some ⟨registers, .error error⟩
      | some (.ok (.make datum)) =>
          runEntries? (position + 1) (values.define entry.result datum) registers rest
      | some (.ok (.commit bank image)) =>
          runEntries? (position + 1) values (registers.setBank bank image) rest

theorem runEntries?_eq [FloatArithmetic] (entries : List Entry) (position : Nat) (values : Values)
    (registers : RegisterFile) :
    runEntries? position values registers entries =
      some (runEntries position values registers entries) := by
  induction entries generalizing position values registers with
  | nil => rfl
  | cons entry rest induction =>
      rw [runEntries?, Instruction.effect?_eq, runEntries]
      cases entry.instruction.effect position values registers with
      | error error => rfl
      | ok effect => cases effect <;> exact induction _ _ _

theorem runEntries_append [FloatArithmetic] (first second : List Entry) (position : Nat)
    (values : Values)
    (registers : RegisterFile) :
    runEntries position values registers (first ++ second) =
      match evaluateEntries position values registers first with
      | .ok (made, left) => runEntries (position + first.length) made left second
      | .error _ => runEntries position values registers first := by
  induction first generalizing position values registers with
  | nil => rfl
  | cons entry rest induction =>
      rw [List.cons_append, runEntries, runEntries, evaluateEntries, List.length_cons,
        Nat.add_comm rest.length, ← Nat.add_assoc]
      cases entry.instruction.effect position values registers with
      | error error => rfl
      | ok effect => cases effect <;> exact induction _ _ _

theorem status_runEntries_eq [FloatArithmetic] (entries : List Entry) (position : Nat)
    (values : Values)
    (registers : RegisterFile) :
    (runEntries position values registers entries).status =
      (evaluateEntries position values registers entries).map fun _ => () := by
  induction entries generalizing position values registers with
  | nil => rfl
  | cons entry rest induction =>
      rw [runEntries, evaluateEntries]
      cases entry.instruction.effect position values registers with
      | error error => rfl
      | ok effect => cases effect <;> exact induction _ _ _

/-- Behind an instruction that does not fail, a run goes on from values and registers that are the
same whatever follows. -/
theorem exists_next [FloatArithmetic] {entry : Entry} {position : Nat} {values : Values}
    {registers : RegisterFile}
    {result : Effect}
    (effect : entry.instruction.effect position values registers = .ok result) :
    ∃ made left, ∀ rest,
      runEntries position values registers (entry :: rest) =
        runEntries (position + 1) made left rest ∧
      evaluateEntries position values registers (entry :: rest) =
        evaluateEntries (position + 1) made left rest := by
  cases result with
  | make datum =>
      refine ⟨values.define entry.result datum, registers, fun rest => ⟨?_, ?_⟩⟩
      · rw [runEntries, effect]
      · rw [evaluateEntries, effect]
  | commit bank image =>
      refine ⟨values, registers.setBank bank image, fun rest => ⟨?_, ?_⟩⟩
      · rw [runEntries, effect]
      · rw [evaluateEntries, effect]

/-- A run that fails stops at an entry, and leaves what the entries before it leave. -/
theorem exists_stop [FloatArithmetic] {entries : List Entry} {position : Nat} {values : Values}
    {registers : RegisterFile} {error : RunError}
    (fails : (runEntries position values registers entries).status = .error error) :
    ∃ before entry after made left, entries = before ++ entry :: after ∧
      evaluateEntries position values registers before = .ok (made, left) ∧
      entry.instruction.effect (position + before.length) made left = .error error := by
  induction entries generalizing position values registers with
  | nil => cases fails
  | cons entry rest induction =>
      cases effect : entry.instruction.effect position values registers with
      | error own =>
          rw [runEntries, effect] at fails
          cases fails
          exact ⟨[], entry, rest, values, registers, rfl, rfl, effect⟩
      | ok result =>
          rcases exists_next effect with ⟨next, kept, goesOn⟩
          rw [(goesOn rest).1] at fails
          rcases induction fails with ⟨before, stop, after, made, left, rfl, reached, stops⟩
          rw [Nat.add_assoc, Nat.add_comm 1] at stops
          exact ⟨entry :: before, stop, after, made, left, rfl, (goesOn before).2.trans reached,
            stops⟩

theorem Values.made_define (values : Values) (result : Option Nat) (datum : Datum) (value : Nat) :
    (values.define result datum).Made value ↔ values.Made value ∨ result = some value := by
  cases result with
  | none => simp [define]
  | some made =>
      rw [Made, define_some, Made]
      by_cases same : value = made
      · simp [same]
      · simp [same, eq_comm (a := made)]

theorem made_evaluateEntries [FloatArithmetic] {entries : List Entry} {position : Nat}
    {values made : Values}
    {registers left : RegisterFile}
    (evaluated : evaluateEntries position values registers entries = .ok (made, left))
    (value : Nat) :
    made.Made value ↔ values.Made value ∨
      ∃ entry ∈ entries, entry.result = some value ∧ entry.instruction.makesValue = true := by
  induction entries generalizing position values registers with
  | nil =>
      cases evaluated
      simp
  | cons entry rest induction =>
      rw [evaluateEntries] at evaluated
      cases effect : entry.instruction.effect position values registers with
      | error error => simp [effect] at evaluated
      | ok result =>
          rw [effect] at evaluated
          cases result with
          | make datum =>
              have makes := Instruction.makesValue_of_make effect
              rw [induction evaluated, Values.made_define]
              simp [makes, or_assoc]
          | commit bank image =>
              have makes := Instruction.makesValue_of_commit effect
              rw [induction evaluated]
              simp [makes]

/-! ## Runs of functions -/

namespace Function

def run? [FloatArithmetic] (function : Function) (registers : RegisterFile) : Option Outcome :=
  runEntries? 0 Values.empty registers function.entries.toList

/-- An instruction before a position makes a value, and is declared to. A commit makes none. -/
def MakesBefore (function : Function) (position value : Nat) : Prop :=
  ∃ earlier < position, function.result? earlier = some value ∧
    ∃ instruction, function.instruction? earlier = some instruction ∧
      instruction.makesValue = true

theorem makesBefore_iff (function : Function) (position value : Nat) :
    function.MakesBefore position value ↔
      ∃ entry ∈ function.entries.toList.take position,
        entry.result = some value ∧ entry.instruction.makesValue = true := by
  constructor
  · rintro ⟨earlier, isEarlier, declared, instruction, stands, makes⟩
    rcases Option.map_eq_some_iff.mp stands with ⟨entry, isEntry, rfl⟩
    rw [result?, isEntry, Option.bind_some] at declared
    refine ⟨entry, List.mem_of_getElem? (i := earlier) ?_, declared, makes⟩
    rw [List.getElem?_take_of_lt isEarlier, Array.getElem?_toList, isEntry]
  · rintro ⟨entry, member, declared, makes⟩
    rcases List.mem_iff_getElem?.mp member with ⟨earlier, isEntry⟩
    have isEarlier : earlier < position := by
      by_contra outside
      rw [List.getElem?_take_eq_none (Nat.le_of_not_lt outside)] at isEntry
      cases isEntry
    rw [List.getElem?_take_of_lt isEarlier, Array.getElem?_toList] at isEntry
    refine ⟨earlier, isEarlier, ?_, entry.instruction, ?_, makes⟩
    · rw [result?, isEntry, Option.bind_some, declared]
    · rw [instruction?, isEntry, Option.map_some]

section OfPushes

variable [FloatArithmetic] (name : String) (pushes : List Push) (registers : RegisterFile)

theorem run_ofPushes_take (number : Nat) :
    (ofPushes name (pushes.take number)).run registers =
      runEntries 0 Values.empty registers ((Push.entriesFrom 0 pushes).take number) := by
  rw [run, entries_ofPushes, Push.entriesFrom_take]

theorem status_ofPushes_take_of_le {fewer more : Nat} (isLe : fewer ≤ more)
    (succeeds : ((ofPushes name (pushes.take more)).run registers).status = .ok ()) :
    ((ofPushes name (pushes.take fewer)).run registers).status = .ok () := by
  rw [run_ofPushes_take] at succeeds ⊢
  have split := List.take_append_drop fewer ((Push.entriesFrom 0 pushes).take more)
  rw [List.take_take, Nat.min_eq_left isLe] at split
  rw [← split, runEntries_append] at succeeds
  rw [status_runEntries_eq]
  cases reached : evaluateEntries 0 Values.empty registers
      ((Push.entriesFrom 0 pushes).take fewer) with
  | ok result => rfl
  | error error =>
      rw [reached] at succeeds
      rw [status_runEntries_eq, reached] at succeeds
      cases succeeds

/-- The run of pushes stops at a position with an error: what is pushed before leaves the same
registers without an error, and nothing behind it is run. -/
structure StopsAt (position : Nat) (error : RunError) : Prop where
  status : ((ofPushes name pushes).run registers).status = .error error
  before : (ofPushes name (pushes.take position)).run registers =
    ⟨((ofPushes name pushes).run registers).registers, .ok ()⟩
  through : (ofPushes name (pushes.take (position + 1))).run registers =
    (ofPushes name pushes).run registers

variable {name pushes registers}

theorem StopsAt.le {position other : Nat} {error otherError : RunError}
    (stops : StopsAt name pushes registers position error)
    (otherStops : StopsAt name pushes registers other otherError) : position ≤ other := by
  by_contra isLess
  have succeeds := status_ofPushes_take_of_le name pushes registers (Nat.lt_of_not_le isLess)
    (congrArg Outcome.status stops.before)
  rw [otherStops.through, otherStops.status] at succeeds
  cases succeeds

theorem exists_stopsAt {error : RunError}
    (fails : ((ofPushes name pushes).run registers).status = .error error) :
    ∃ position push, pushes[position]? = some push ∧
      StopsAt name pushes registers position error ∧
      error.Blames position push.instruction ((ofPushes name pushes).MakesBefore position) := by
  rcases exists_stop fails with ⟨before, entry, after, made, left, listed, reached, stops⟩
  have entries : Push.entriesFrom 0 pushes = before ++ entry :: after := by
    rw [← entries_ofPushes name, listed]
  rw [Nat.zero_add] at stops
  have stopped : ∀ rest, runEntries 0 Values.empty registers (before ++ entry :: rest) =
      ⟨left, .error error⟩ := by
    intro rest
    rw [runEntries_append, reached]
    simp only [runEntries, Nat.zero_add, stops]
  have outcome : (ofPushes name pushes).run registers = ⟨left, .error error⟩ := by
    rw [run, listed]
    exact stopped after
  have found := Push.getElem?_entriesFrom 0 before.length pushes
  rw [entries, List.getElem?_append_right (Nat.le_refl _), Nat.sub_self,
    List.getElem?_cons_zero] at found
  rcases Option.map_eq_some_iff.mp found.symm with ⟨push, pushed, rfl⟩
  refine ⟨before.length, push, pushed, ⟨fails, ?_, ?_⟩, ?_⟩
  · rw [outcome, run_ofPushes_take, entries, List.take_left]
    exact runEntries_of_evaluateEntries before reached
  · rw [outcome, run_ofPushes_take, entries, List.take_length_add_append, List.take_succ_cons]
    exact stopped _
  · have sameMade : made.Made = (ofPushes name pushes).MakesBefore before.length := by
      funext value
      rw [makesBefore_iff, listed, List.take_left, made_evaluateEntries reached]
      simp [Values.Made, Values.empty]
    rw [← sameMade]
    exact Instruction.blames_of_effect stops

variable (name pushes registers)

/-- A run of any pushes gets through all of them, or there is exactly one push that it stops at,
and the error is about the instruction pushed. Neither reaches for a lane outside of its image. -/
theorem run_stops :
    (ofPushes name pushes).run? registers = some ((ofPushes name pushes).run registers) ∧
    (((ofPushes name pushes).run registers).status = .ok () ∨
      ∃! position, ∃ push error, pushes[position]? = some push ∧
        StopsAt name pushes registers position error ∧
        error.Blames position push.instruction
          ((ofPushes name pushes).MakesBefore position)) := by
  refine ⟨runEntries?_eq _ 0 Values.empty registers, ?_⟩
  cases status : ((ofPushes name pushes).run registers).status with
  | ok _ => exact .inl rfl
  | error error =>
      right
      rcases exists_stopsAt status with ⟨position, push, pushed, stops, blamed⟩
      refine ⟨position, ⟨push, error, pushed, stops, blamed⟩, ?_⟩
      rintro other ⟨_, _, _, otherStops, _⟩
      exact Nat.le_antisymm (otherStops.le stops) (stops.le otherStops)

end OfPushes

/-- A commit makes no value, also if one is declared for it. -/
example :
    let pushes : List Push :=
      [⟨.getBank 1, some .image⟩, ⟨.setBank 2 0, some .image⟩, ⟨.setBank 3 1, none⟩]
    ((ofPushes "" pushes).run .zero).status = .error (.undefinedValue 1) := by
  decide

end Function

end Lane

end LaneLift
