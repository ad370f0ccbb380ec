import LaneLift.Lane.Run
import LaneLift.Proofs.Register.Memory

/-!
# Progress of lane code

Code that runs without an error appends values to those made before and leaves
registers behind. What it does then depends neither on where it stands in its
function nor on how its values are numbered, so pieces of code can be run one
by one and put together afterwards.
-/

namespace LaneLift.Lane

def Values.ofList (values : List Datum) : Values :=
  fun value => values[value]?

structure Progress where
  values : List Datum
  registers : RegisterFile

def Progress.apply (progress : Progress) : Effect → Progress
  | .make datum => { progress with values := progress.values ++ [datum] }
  | .commit bank image =>
      { progress with registers := progress.registers.setBank bank image }

def Instruction.Succeeds [FloatArithmetic] (progress : Progress) (instruction : Instruction)
    (effect : Effect) :
    Prop :=
  ∀ position,
    instruction.effect position (.ofList progress.values) progress.registers = .ok effect

inductive Code.Reaches [FloatArithmetic] : Progress → Code → Progress → Prop
  | nil (progress : Progress) : Reaches progress [] progress
  | cons {before after : Progress} {instruction : Instruction} {effect : Effect} {rest : Code} :
      instruction.Succeeds before effect →
      Reaches (before.apply effect) rest after →
      Reaches before (instruction :: rest) after

namespace Code.Reaches

variable [FloatArithmetic]

theorem single {before : Progress} {instruction : Instruction} {effect : Effect}
    (succeeds : instruction.Succeeds before effect) :
    Code.Reaches before [instruction] (before.apply effect) :=
  .cons succeeds (.nil _)

theorem append {before middle after : Progress} {first second : Code}
    (left : Code.Reaches before first middle) (right : Code.Reaches middle second after) :
    Code.Reaches before (first ++ second) after := by
  induction left with
  | nil => exact right
  | cons succeeds _ induction => exact .cons succeeds (induction right)

end Code.Reaches

/-! ## Effects under other names -/

theorem operand_ofList (values : List Datum) {value : Nat} {datum : Datum}
    (found : values[value]? = some datum) :
    operand (.ofList values) value = .ok datum := by
  simp [operand, Values.ofList, found]

theorem operand_eq_ok {values : Values} {value : Nat} {datum : Datum} :
    operand values value = .ok datum ↔ values value = some datum := by
  rw [operand]
  cases values value <;> simp

theorem Except.bind_eq_ok {ε α β : Type} {action : Except ε α} {next : α → Except ε β}
    {result : β} :
    action >>= next = .ok result ↔ ∃ value, action = .ok value ∧ next value = .ok result := by
  cases action <;> simp [bind, Except.bind]

theorem imageOperand_eq_ok {position : Nat} {opcode : Opcode} {datum : Datum} {content : Image} :
    imageOperand position opcode datum = .ok content ↔ datum = .image content := by
  cases datum <;> simp [imageOperand]

theorem laneType_eq_ok {position : Nat} {opcode : Opcode} {type : ValueType} {lane : Nat}
    {scalar : ScalarType} :
    laneType position opcode type lane = .ok scalar ↔
      type = .scalar scalar ∧ lane < scalar.lanesPerBank := by
  cases type with
  | image => simp [laneType]
  | scalar own =>
      by_cases inside : lane < own.lanesPerBank
      · simp only [laneType, inside, if_true, Except.ok.injEq, ValueType.scalar.injEq]
        constructor
        · intro same
          exact ⟨same, same ▸ inside⟩
        · exact And.left
      · simp only [laneType, inside, if_false, reduceCtorEq, ValueType.scalar.injEq, false_iff]
        rintro ⟨same, other⟩
        exact inside (same ▸ other)

theorem makeOr_eq_ok {position : Nat} {opcode : Opcode} {type : ValueType} {made : Option Datum}
    {effect : Effect} :
    makeOr position opcode type made = .ok effect ↔
      ∃ datum, made = some datum ∧ effect = .make datum := by
  cases made <;> simp [makeOr, eq_comm]

theorem Instruction.effect_extend [FloatArithmetic] (position : Nat) (values : Values)
    (registers : RegisterFile)
    (opcode : Opcode) (type : ValueType) (argument : Nat) :
    (Instruction.extend opcode type argument).effect position values registers =
      operand values argument >>= fun datum =>
        match if opcode = .sextend then datum.signed? else datum.unsigned? with
        | some bits => makeOr position opcode type (Datum.ofBits? type bits)
        | none => .error (.invalidType position opcode datum.type) :=
  rfl

/-- An instruction that succeeds has the same effect at any position and under
any names, as long as the values that are defined go by those names. -/
theorem Instruction.effect_rename [FloatArithmetic] {instruction : Instruction} {names : Nat → Nat}
    {inner outer : Values} {registers : RegisterFile} {position : Nat} {effect : Effect}
    (agrees : ∀ value datum, inner value = some datum → outer (names value) = some datum)
    (succeeds : instruction.effect position inner registers = .ok effect) (other : Nat) :
    (instruction.rename names).effect other outer registers = .ok effect := by
  cases instruction with
  | getBank bank =>
      simp only [Instruction.effect, rename] at succeeds ⊢
      cases read : registers.bank? bank <;> simp_all
  | setBank bank image =>
      simp only [Instruction.effect, rename, Except.bind_eq_ok, operand_eq_ok,
        imageOperand_eq_ok] at succeeds ⊢
      rcases succeeds with ⟨datum, found, content, isImage, commit⟩
      by_cases inside : bank < bankCount
      · exact ⟨datum, agrees _ _ found, content, isImage, by simpa [inside] using commit⟩
      · simp [inside] at commit
  | extractLane type image lane =>
      simp only [Instruction.effect, rename, Except.bind_eq_ok, operand_eq_ok,
        imageOperand_eq_ok, laneType_eq_ok] at succeeds ⊢
      rcases succeeds with ⟨datum, found, rest⟩
      exact ⟨datum, agrees _ _ found, rest⟩
  | insertLane type image value lane =>
      simp only [Instruction.effect, rename, Except.bind_eq_ok, operand_eq_ok,
        imageOperand_eq_ok, laneType_eq_ok] at succeeds ⊢
      rcases succeeds with
        ⟨datum, found, content, isImage, inserted, foundInserted, scalar, fits, made⟩
      refine ⟨datum, agrees _ _ found, content, isImage, inserted, agrees _ _ foundInserted,
        scalar, fits, ?_⟩
      cases bits : inserted.bits? <;> simp_all
  | iconst type immediate =>
      simpa only [Instruction.effect, rename, makeOr_eq_ok] using succeeds
  | f32const pattern => exact succeeds
  | f64const pattern => exact succeeds
  | extend opcode type argument =>
      simp only [rename, effect_extend, Except.bind_eq_ok, operand_eq_ok] at succeeds ⊢
      rcases succeeds with ⟨datum, found, made⟩
      refine ⟨datum, agrees _ _ found, ?_⟩
      cases wide : (if opcode = .sextend then datum.signed? else datum.unsigned?) with
      | none => simp [wide] at made
      | some bits => simpa [wide, makeOr_eq_ok] using made
  | unary opcode argument =>
      simp only [Instruction.effect, rename, Except.bind_eq_ok, operand_eq_ok,
        makeOr_eq_ok] at succeeds ⊢
      rcases succeeds with ⟨datum, found, made⟩
      exact ⟨datum, agrees _ _ found, made⟩
  | binary opcode left right =>
      simp only [Instruction.effect, rename, Instruction.opcode, Except.bind_eq_ok,
        operand_eq_ok] at succeeds ⊢
      rcases succeeds with ⟨x, foundLeft, y, foundRight, made⟩
      refine ⟨x, agrees _ _ foundLeft, y, agrees _ _ foundRight, ?_⟩
      by_cases same : x.type = y.type
      · simpa [same, makeOr_eq_ok] using made
      · simp [same] at made

/-! ## Values by their types -/

theorem exists_image {values : List Datum} {value : Nat}
    (typed : (values.map Datum.type)[value]? = some .image) :
    ∃ content, values[value]? = some (.image content) := by
  rw [List.getElem?_map, Option.map_eq_some_iff] at typed
  rcases typed with ⟨datum, found, isImage⟩
  cases datum with
  | scalar type pattern => cases isImage
  | image content => exact ⟨content, found⟩

theorem exists_scalar {values : List Datum} {value : Nat} {type : ScalarType}
    (typed : (values.map Datum.type)[value]? = some (.scalar type)) :
    ∃ pattern, values[value]? = some (.scalar type pattern) := by
  rw [List.getElem?_map, Option.map_eq_some_iff] at typed
  rcases typed with ⟨datum, found, isScalar⟩
  cases datum with
  | scalar type pattern =>
      cases isScalar
      exact ⟨pattern, found⟩
  | image content => cases isScalar

theorem exists_scalars {type : ScalarType} :
    ∀ data : List Datum, (∀ datum ∈ data, datum.type = .scalar type) →
      ∃ patterns : List (BitVec type.width), data = patterns.map (.scalar type)
  | [], _ => ⟨[], rfl⟩
  | datum :: rest, typed => by
      rcases exists_scalars rest fun other member => typed other (List.mem_cons_of_mem datum member)
        with ⟨patterns, rfl⟩
      have isTyped := typed datum List.mem_cons_self
      cases datum with
      | image content => cases isTyped
      | scalar own pattern =>
          cases isTyped
          exact ⟨pattern :: patterns, rfl⟩

/-! ## Banks and lanes -/

namespace Instruction

variable [FloatArithmetic] {values : List Datum} {content : Image}

theorem succeeds_getBank (values : List Datum) (registers : RegisterFile) {bank : Nat}
    (inside : bank < bankCount) :
    Instruction.Succeeds ⟨values, registers⟩ (.getBank bank)
      (.make (.image (registers.image bank))) := by
  intro position
  simp only [Instruction.effect, registers.bank?_eq_image inside]

theorem succeeds_setBank (bank : Fin bankCount) {image : Nat}
    (found : values[image]? = some (.image content)) (registers : RegisterFile) :
    Instruction.Succeeds ⟨values, registers⟩ (.setBank bank image) (.commit bank content) := by
  intro position
  simp [Instruction.effect, operand_ofList values found, imageOperand, bind, Except.bind]

theorem succeeds_extractLane {image lane : Nat} (type : ScalarType)
    (found : values[image]? = some (.image content)) (inside : lane < type.lanesPerBank)
    (registers : RegisterFile) :
    Instruction.Succeeds ⟨values, registers⟩ (.extractLane (.scalar type) image lane)
      (.make (.scalar type (content.lane type.width lane))) := by
  intro position
  simp [Instruction.effect, operand_ofList values found, imageOperand, laneType, inside, bind,
    Except.bind]

theorem succeeds_insertLane {image value lane : Nat} {type own : ScalarType}
    {pattern : BitVec own.width} (found : values[image]? = some (.image content))
    (foundValue : values[value]? = some (.scalar own pattern))
    (inside : lane < type.lanesPerBank) (registers : RegisterFile) :
    Instruction.Succeeds ⟨values, registers⟩ (.insertLane (.scalar type) image value lane)
      (.make (.image (content.setLane lane (pattern.setWidth type.width)))) := by
  intro position
  have truncated : (pattern.setWidth 64).setWidth type.width = pattern.setWidth type.width :=
    BitVec.setWidth_setWidth_of_le pattern type.width_le
  simp [Instruction.effect, operand_ofList values found, operand_ofList values foundValue,
    imageOperand, laneType, inside, Datum.bits?, truncated, bind, Except.bind]

end Instruction

/-! ## Values made by code -/

variable [FloatArithmetic]

theorem Instruction.makesValue_of_make {instruction : Instruction} {position : Nat}
    {values : Values} {registers : RegisterFile} {datum : Datum}
    (succeeds : instruction.effect position values registers = .ok (.make datum)) :
    instruction.makesValue = true := by
  cases instruction with
  | setBank bank image =>
      simp only [Instruction.effect, Except.bind_eq_ok] at succeeds
      rcases succeeds with ⟨_, _, _, _, commit⟩
      by_cases inside : bank < bankCount <;> simp [inside] at commit
  | _ => rfl

theorem Instruction.makesValue_of_commit {instruction : Instruction} {position : Nat}
    {values : Values} {registers : RegisterFile} {bank : Fin bankCount} {image : Image}
    (succeeds : instruction.effect position values registers = .ok (.commit bank image)) :
    instruction.makesValue = false := by
  cases instruction with
  | setBank bank image => rfl
  | getBank bank =>
      simp only [Instruction.effect] at succeeds
      cases read : registers.bank? bank <;> simp [read] at succeeds
  | extractLane type image lane => simp [Instruction.effect, Except.bind_eq_ok] at succeeds
  | insertLane type image value lane =>
      simp only [Instruction.effect, Except.bind_eq_ok] at succeeds
      rcases succeeds with ⟨_, _, _, _, inserted, _, _, _, made⟩
      cases bits : inserted.bits? <;> simp [bits] at made
  | iconst type immediate => simp [Instruction.effect, makeOr_eq_ok] at succeeds
  | f32const pattern => simp [Instruction.effect] at succeeds
  | f64const pattern => simp [Instruction.effect] at succeeds
  | extend opcode type argument =>
      simp only [effect_extend, Except.bind_eq_ok] at succeeds
      rcases succeeds with ⟨datum, _, made⟩
      cases wide : (if opcode = .sextend then datum.signed? else datum.unsigned?) <;>
        simp [wide, makeOr_eq_ok] at made
  | unary opcode argument =>
      simp [Instruction.effect, Except.bind_eq_ok, makeOr_eq_ok] at succeeds
  | binary opcode left right =>
      simp only [Instruction.effect, Except.bind_eq_ok] at succeeds
      rcases succeeds with ⟨x, _, y, _, made⟩
      by_cases same : x.type = y.type <;> simp [same, makeOr_eq_ok] at made

namespace Code.Reaches

theorem appends {before after : Progress} {code : Code} (run : Code.Reaches before code after) :
    ∃ made, after.values = before.values ++ made ∧ made.length = code.valueCount := by
  induction run with
  | nil => exact ⟨[], by simp⟩
  | @cons before after instruction effect rest succeeds _ induction =>
      rcases induction with ⟨made, values, length⟩
      cases effect with
      | make datum =>
          have makes := Instruction.makesValue_of_make (succeeds 0)
          refine ⟨datum :: made, by simp [values, Progress.apply], ?_⟩
          simp [Code.valueCount, makes] at length ⊢
          exact length
      | commit bank image =>
          have makes := Instruction.makesValue_of_commit (succeeds 0)
          refine ⟨made, by simpa [Progress.apply] using values, ?_⟩
          simpa [Code.valueCount, makes] using length

theorem behind {before after : Progress} {code : Code} (run : Code.Reaches before code after)
    (earlier : List Datum) :
    Code.Reaches ⟨earlier ++ before.values, before.registers⟩
      (code.map (Instruction.rename (· + earlier.length)))
      ⟨earlier ++ after.values, after.registers⟩ := by
  induction run with
  | nil => exact .nil _
  | @cons before after instruction effect rest succeeds _ induction =>
      have agrees : ∀ value datum, Values.ofList before.values value = some datum →
          Values.ofList (earlier ++ before.values) (value + earlier.length) = some datum := by
        intro value datum found
        rw [Values.ofList, List.getElem?_append_right (by omega), Nat.add_sub_cancel]
        exact found
      have succeedsBehind : (instruction.rename (· + earlier.length)).Succeeds
          ⟨earlier ++ before.values, before.registers⟩ effect :=
        fun position => Instruction.effect_rename agrees (succeeds 0) position
      apply Code.Reaches.cons succeedsBehind
      cases effect <;> simpa [Progress.apply] using induction

end Code.Reaches

end LaneLift.Lane
