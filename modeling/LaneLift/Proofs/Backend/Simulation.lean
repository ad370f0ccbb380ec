import LaneLift.Proofs.Backend.Building
import LaneLift.Proofs.Backend.Stage
import LaneLift.Proofs.Lane.Appending
import LaneLift.Proofs.Lane.Computing

/-!
# Backend code does what lane code does

Lane code is built into a function of lane code and into a backend function at
the same time. While both are executed, every value of lane code and the backend
value that goes by its number stay the same, images being vectors of bytes; and
the guest state in the memory keeps the bytes of the register file.
-/

namespace LaneLift.Backend

open Lane (Datum Opcode Progress ScalarType ValueType)

def Value.ofDatum : Datum → Value
  | .scalar type pattern => .scalar type pattern
  | .image content => .vector .i8 content

theorem valueType_ofDatum (datum : Datum) :
    (Value.ofDatum datum).type.valueType = datum.type := by
  cases datum <;> rfl

/-! ## Operations -/

namespace Stage

variable {semantics : Semantics} {stage : Stage}

theorem exists_makes_unary [FloatArithmetic] (documented : Documented semantics) {opcode : Opcode}
    {own : ScalarType} {number : Nat} {x : BitVec own.width} (isUnary : opcode.isUnary = true)
    (suits : opcode.Suits own) (known : stage.Knows number (.scalar own x)) :
    ∃ made, own.unary? opcode x = some made ∧
      stage.Makes semantics (Append.make (.unary opcode number) (.scalar own)) id
        (.scalar own made) := by
  rcases Opcode.exists_unary? isUnary suits x with ⟨made, isMade⟩
  rcases suits with ⟨_, integer⟩ | ⟨floatOpcode, float⟩
  · have wrapped := isMade
    rw [Lane.ScalarType.unary?_eq_wrapping integer] at wrapped
    exact ⟨made, isMade, makes_make (documented.integerUnary known.1 integer wrapped)⟩
  · cases opcode <;> simp [Opcode.isUnary, Opcode.isFloat] at isUnary floatOpcode
    case fneg =>
      refine ⟨_, ?_, makes_make (documented.fneg known.1 float)⟩
      cases own <;> first | rfl | cases float
    case fabs =>
      refine ⟨_, ?_, makes_make (documented.fabs known.1 float)⟩
      cases own <;> first | rfl | cases float
    case sqrt => exact ⟨made, isMade, makes_make (documented.sqrt known.1 float isMade)⟩

theorem exists_makes_binary [FloatArithmetic] (documented : Documented semantics) {opcode : Opcode}
    {own : ScalarType} {left right : Nat} {x y : BitVec own.width}
    (isBinary : opcode.isBinary = true) (suits : opcode.Suits own)
    (knownLeft : stage.Knows left (.scalar own x))
    (knownRight : stage.Knows right (.scalar own y)) :
    ∃ made, own.binary? opcode x y = some made ∧
      stage.Makes semantics (Append.make (.binary opcode left right) (.scalar own)) id
        (.scalar own made) := by
  rcases Opcode.exists_binary? isBinary suits x y with ⟨made, isMade⟩
  rcases suits with ⟨_, integer⟩ | ⟨_, float⟩
  · have wrapped := isMade
    rw [Lane.ScalarType.binary?_eq_wrapping integer] at wrapped
    exact ⟨made, isMade,
      makes_make (documented.integerBinary knownLeft.1 knownRight.1 integer wrapped)⟩
  · exact ⟨made, isMade,
      makes_make (documented.floatBinary knownLeft.1 knownRight.1 float isMade)⟩

/-! ## Instructions -/

structure Agrees (stage : Stage) (names : Nat → Nat) (progress : Progress)
    (pointer : BitVec 64) : Prop where
  statePointer : stage.Knows Instruction.statePointer (.scalar .i64 pointer)
  memory : stage.state.memory.Holds pointer progress.registers
  values : ∀ value datum, progress.values[value]? = some datum →
    stage.Knows (names value) (.ofDatum datum)

def MakesAlike [FloatArithmetic] (semantics : Semantics) (stage : Stage) (names : Nat → Nat)
    (progress : Progress)
    (instruction : Lane.Instruction) : Prop :=
  ∃ datum, instruction.Succeeds progress (.make datum) ∧
    stage.Makes semantics (Append.compile names instruction) some (.ofDatum datum)

namespace Agrees

variable {names : Nat → Nat} {progress : Progress} {pointer : BitVec 64}

theorem getBank [FloatArithmetic] (agrees : stage.Agrees names progress pointer)
    (documented : Documented semantics) {bank : Nat} (inside : bank < bankCount) :
    stage.MakesAlike semantics names progress (.getBank bank) := by
  have loaded : semantics stage.state.values stage.state.memory
      (.load (Instruction.bankOffset bank)) =
        some (.make (.vector .i8 (progress.registers.image bank))) := by
    rw [documented.load agrees.statePointer.1, agrees.memory.load inside]
  exact ⟨_, Lane.Instruction.succeeds_getBank _ _ inside, (makes_make loaded).map⟩

theorem extractLane [FloatArithmetic] (agrees : stage.Agrees names progress pointer)
    (documented : Documented semantics) {image lane : Nat} {content : Image} (type : ScalarType)
    (found : progress.values[image]? = some (.image content))
    (inside : lane < type.lanesPerBank) :
    stage.MakesAlike semantics names progress (.extractLane (.scalar type) image lane) := by
  refine ⟨_, Lane.Instruction.succeeds_extractLane type found inside _, ?_⟩
  apply Makes.bind (makes_reinterpret documented (agrees.values image _ found) type)
  intro vector after _ isVector
  exact (makes_make (documented.extractLane isVector.1 inside)).map

theorem insertLane [FloatArithmetic] (agrees : stage.Agrees names progress pointer)
    (documented : Documented semantics) {image value lane : Nat} {content : Image}
    {type own : ScalarType} {pattern : BitVec own.width}
    (found : progress.values[image]? = some (.image content))
    (foundValue : progress.values[value]? = some (.scalar own pattern))
    (inside : lane < type.lanesPerBank)
    (fits : own = type ∨ own.isInteger = true ∧ type.isInteger = true) :
    stage.MakesAlike semantics names progress
      (.insertLane (.scalar type) image value lane) := by
  refine ⟨_, Lane.Instruction.succeeds_insertLane found foundValue inside _, ?_⟩
  apply Makes.bind (makes_convert documented (agrees.values value _ foundValue) fits)
  intro converted first toFirst isConverted
  have isImage := toFirst.knows (agrees.values image _ found)
  apply Makes.bind (makes_reinterpret documented isImage type)
  intro vector second toSecond isVector
  apply Makes.bind
    (makes_make (documented.insertLane isVector.1 (toSecond.knows isConverted).1 inside))
  intro result third _ isResult
  exact (makes_reinterpret documented isResult .i8).map

theorem iconst [FloatArithmetic] (documented : Documented semantics) {type : ScalarType}
    (immediate : BitVec 64)
    (integer : type.isInteger = true) :
    stage.MakesAlike semantics names progress (.iconst (.scalar type) immediate) := by
  have computed : Lane.Instruction.compute? progress.values (.iconst (.scalar type) immediate) =
      some (.scalar type (immediate.setWidth type.width)) := rfl
  exact ⟨_, Lane.Instruction.effect_of_compute? computed _,
    (makes_make (documented.iconst integer)).map⟩

theorem sextend [FloatArithmetic] (agrees : stage.Agrees names progress pointer)
    (documented : Documented semantics) {type own : ScalarType} {argument : Nat}
    {pattern : BitVec own.width}
    (found : progress.values[argument]? = some (.scalar own pattern))
    (ownInteger : own.isInteger = true) (integer : type.isInteger = true)
    (wider : own.width < type.width) :
    stage.MakesAlike semantics names progress (.extend .sextend (.scalar type) argument) := by
  have computed : Lane.Instruction.compute? progress.values
      (.extend .sextend (.scalar type) argument) =
        some (.scalar type (pattern.signExtend type.width)) := by
    simp [Lane.Instruction.compute?, found, Datum.signed?, ownInteger, Datum.ofBits?,
      Lane.setWidth_signExtend type.width_le]
  have known := agrees.values argument _ found
  exact ⟨_, Lane.Instruction.effect_of_compute? computed _,
    (makes_make (documented.sextend known.1 ownInteger integer wider)).map⟩

theorem uextend [FloatArithmetic] (agrees : stage.Agrees names progress pointer)
    (documented : Documented semantics) {type own : ScalarType} {argument : Nat}
    {pattern : BitVec own.width}
    (found : progress.values[argument]? = some (.scalar own pattern))
    (ownInteger : own.isInteger = true) (integer : type.isInteger = true)
    (wider : own.width < type.width) :
    stage.MakesAlike semantics names progress (.extend .uextend (.scalar type) argument) := by
  have computed : Lane.Instruction.compute? progress.values
      (.extend .uextend (.scalar type) argument) =
        some (.scalar type (pattern.setWidth type.width)) := by
    simp [Lane.Instruction.compute?, found, Datum.unsigned?, ownInteger, Datum.ofBits?,
      BitVec.setWidth_setWidth_of_le pattern type.width_le]
  have known := agrees.values argument _ found
  exact ⟨_, Lane.Instruction.effect_of_compute? computed _,
    (makes_make (documented.uextend known.1 ownInteger integer wider)).map⟩

theorem unary [FloatArithmetic] (agrees : stage.Agrees names progress pointer)
    (documented : Documented semantics) {opcode : Opcode} {own : ScalarType} {argument : Nat}
    {x : BitVec own.width} (isUnary : opcode.isUnary = true) (suits : opcode.Suits own)
    (found : progress.values[argument]? = some (.scalar own x)) :
    stage.MakesAlike semantics names progress (.unary opcode argument) := by
  have known := agrees.values argument _ found
  rcases exists_makes_unary documented isUnary suits known with ⟨made, isMade, makes⟩
  have computed : Lane.Instruction.compute? progress.values (.unary opcode argument) =
      some (.scalar own made) := by
    simp [Lane.Instruction.compute?, found, Datum.unary?, isMade]
  exact ⟨_, Lane.Instruction.effect_of_compute? computed _, makes_typeOf known makes.map⟩

theorem binary [FloatArithmetic] (agrees : stage.Agrees names progress pointer)
    (documented : Documented semantics) {opcode : Opcode} {own : ScalarType} {left right : Nat}
    {x y : BitVec own.width} (isBinary : opcode.isBinary = true) (suits : opcode.Suits own)
    (foundLeft : progress.values[left]? = some (.scalar own x))
    (foundRight : progress.values[right]? = some (.scalar own y)) :
    stage.MakesAlike semantics names progress (.binary opcode left right) := by
  have knownLeft := agrees.values left _ foundLeft
  have knownRight := agrees.values right _ foundRight
  rcases exists_makes_binary documented isBinary suits knownLeft knownRight with
    ⟨made, isMade, makes⟩
  have computed : Lane.Instruction.compute? progress.values (.binary opcode left right) =
      some (.scalar own made) := by
    simp [Lane.Instruction.compute?, foundLeft, foundRight, Datum.binary?, isMade]
  exact ⟨_, Lane.Instruction.effect_of_compute? computed _, makes_typeOf knownLeft makes.map⟩

theorem make (agrees : stage.Agrees names progress pointer) {after : Stage}
    (later : Extends semantics stage after) {number : Nat} {datum : Datum}
    (known : after.Knows number (.ofDatum datum)) {longer : Nat → Nat}
    (earlierNames : ∀ value < progress.values.length, longer value = names value)
    (newName : longer progress.values.length = number) :
    after.Agrees longer (progress.apply (.make datum)) pointer where
  statePointer := later.knows agrees.statePointer
  memory := by
    rw [later.memory]
    exact agrees.memory
  values := by
    intro value found isFound
    simp only [Progress.apply, List.getElem?_append] at isFound
    by_cases earlier : value < progress.values.length
    · rw [if_pos earlier] at isFound
      rw [earlierNames value earlier]
      exact later.knows (agrees.values value found isFound)
    · rw [if_neg earlier] at isFound
      have last : value = progress.values.length := by
        have listed := (List.getElem?_eq_some_iff.mp isFound).1
        simp only [List.length_singleton] at listed
        omega
      subst last
      have sameDatum : datum = found := by simpa using isFound
      rw [newName, ← sameDatum]
      exact known

theorem makesAlike [FloatArithmetic] (agrees : stage.Agrees names progress pointer)
    (documented : Documented semantics) {instruction : Lane.Instruction}
    (admissible : instruction.Admissible (progress.values.map Datum.type))
    (makesValue : instruction.makesValue = true) :
    stage.MakesAlike semantics names progress instruction := by
  cases admissible with
  | setBank inside typed => cases makesValue
  | getBank inside => exact agrees.getBank documented inside
  | extractLane typed inside =>
      rcases Lane.exists_image typed with ⟨content, found⟩
      exact agrees.extractLane documented _ found inside
  | insertLane typed typedValue inside fits =>
      rcases Lane.exists_image typed with ⟨content, found⟩
      rcases Lane.exists_scalar typedValue with ⟨pattern, foundValue⟩
      exact agrees.insertLane documented found foundValue inside fits
  | iconst integer => exact iconst documented _ integer
  | f32const => exact ⟨.scalar .f32 _, fun _ => rfl, (makes_make documented.f32const).map⟩
  | f64const => exact ⟨.scalar .f64 _, fun _ => rfl, (makes_make documented.f64const).map⟩
  | extend isExtension typed ownInteger integer wider =>
      rcases Lane.exists_scalar typed with ⟨pattern, found⟩
      rcases isExtension with rfl | rfl
      · exact agrees.sextend documented found ownInteger integer wider
      · exact agrees.uextend documented found ownInteger integer wider
  | unary isUnary typed suits =>
      rcases Lane.exists_scalar typed with ⟨x, found⟩
      exact agrees.unary documented isUnary suits found
  | binary isBinary typedLeft typedRight suits =>
      rcases Lane.exists_scalar typedLeft with ⟨x, foundLeft⟩
      rcases Lane.exists_scalar typedRight with ⟨y, foundRight⟩
      exact agrees.binary documented isBinary suits foundLeft foundRight

end Agrees

end Stage

/-! ## Simulation -/

structure Simulates [FloatArithmetic] (semantics : Semantics) (registers : RegisterFile)
    (memory : Memory)
    (pointer : BitVec 64) (function : Lane.Function) (progress : Progress) (builder : Builder)
    (state : State) : Prop where
  leaves : function.Leaves registers progress
  executes : builder.function.execute? semantics (.start memory pointer) = some state
  agrees : Stage.Agrees ⟨builder.function, state⟩ builder.number progress pointer
  count : builder.numbers.size = progress.values.length
  frame : ∀ address, 256 ≤ (address - pointer).toNat → state.memory address = memory address

namespace Simulates

variable [FloatArithmetic] {semantics : Semantics} {registers : RegisterFile} {memory : Memory}
  {pointer : BitVec 64} {function : Lane.Function} {progress : Progress} {builder : Builder}
  {state : State} {instruction : Lane.Instruction}

theorem empty (semantics : Semantics) (holds : memory.Holds pointer registers) (name : String) :
    Simulates semantics registers memory pointer { name := name } ⟨[], registers⟩ {}
      (.start memory pointer) where
  leaves := Lane.Function.leaves_empty name registers
  executes := rfl
  agrees := {
    statePointer := ⟨rfl, rfl⟩
    memory := holds
    values := fun value datum found => by cases found }
  count := rfl
  frame _ _ := rfl

theorem typeOf?_eq
    (simulates : Simulates semantics registers memory pointer function progress builder state)
    (value : Nat) : builder.typeOf? value = function.typeOf? value := by
  rw [simulates.leaves.types, Builder.typeOf?]
  by_cases made : value < progress.values.length
  · have found := List.getElem?_eq_getElem made
    have numbered : builder.numbers[value]? = some (builder.number value) := by
      have inside : value < builder.numbers.size := by
        rw [simulates.count]
        exact made
      simp [Builder.number, inside]
    have known := simulates.agrees.values value _ found
    rw [found, numbered, Option.bind_some, known.2, Option.map_some, valueType_ofDatum,
      Option.map_some]
  · have absent : progress.values[value]? = none := List.getElem?_eq_none (by omega)
    have unnumbered : builder.numbers[value]? = none := by
      apply Array.getElem?_eq_none
      rw [simulates.count]
      omega
    rw [absent, unnumbered]
    rfl

theorem make
    (simulates : Simulates semantics registers memory pointer function progress builder state)
    {datum : Datum} (succeeds : instruction.Succeeds progress (.make datum))
    (makes : Stage.Makes semantics ⟨builder.function, state⟩
      (Append.compile builder.number instruction) some (.ofDatum datum)) :
    ∃ after, Simulates semantics registers memory pointer (function.build instruction)
      (progress.apply (.make datum)) (builder.build instruction) after := by
  rcases makes with ⟨number, ⟨target, after⟩, isAfter, toAfter, known⟩
  have built : builder.build instruction = ⟨target, builder.numbers.push number⟩ := by
    rw [Builder.build, StateT.run, isAfter]
  have count := simulates.count
  have earlierNames : ∀ value < progress.values.length,
      Builder.number ⟨target, builder.numbers.push number⟩ value = builder.number value :=
    fun value earlier => builder.number_push_of_lt target number (count ▸ earlier)
  have newName : Builder.number ⟨target, builder.numbers.push number⟩ progress.values.length =
      number := by
    rw [← count, builder.number_push_size]
  rw [built]
  refine ⟨after, ?_⟩
  exact {
    leaves := simulates.leaves.build succeeds
    executes := toAfter.execute? simulates.executes
    agrees := simulates.agrees.make toAfter known earlierNames newName
    count := by simp [count, Progress.apply]
    frame := by
      intro address outside
      rw [toAfter.memory]
      exact simulates.frame address outside }

theorem commit (documented : Documented semantics)
    (simulates : Simulates semantics registers memory pointer function progress builder state)
    (bank : Fin bankCount) {image : Nat} {content : Image}
    (found : progress.values[image]? = some (.image content)) :
    ∃ after, Simulates semantics registers memory pointer
      (function.build (.setBank bank image)) (progress.apply (.commit bank content))
      (builder.build (.setBank bank image)) after := by
  have known := simulates.agrees.values image _ found
  have built : builder.build (.setBank bank image) =
      { builder with function := { builder.function with
          entries := builder.function.entries.push
            ⟨.store (builder.number image) (Instruction.bankOffset bank), none⟩ } } := by
    rw [Builder.build, StateT.run, Function.compile_setBank known.2]
  have stored : semantics state.values state.memory
      (.store (builder.number image) (Instruction.bankOffset bank)) =
        some (.write (pointer + (Instruction.bankOffset bank).signExtend 64) content) :=
    documented.store simulates.agrees.statePointer.1 known.1
  have executed : List.foldlM (Entry.execute? semantics) state
      [⟨.store (builder.number image) (Instruction.bankOffset bank), none⟩] =
        some ⟨state.values, state.memory.store
          (pointer + (Instruction.bankOffset bank).signExtend 64) content⟩ := by
    rw [List.foldlM_cons, Entry.execute?, stored]
    rfl
  rw [built]
  refine ⟨⟨state.values, state.memory.store
    (pointer + (Instruction.bankOffset bank).signExtend 64) content⟩, ?_⟩
  exact {
    leaves := simulates.leaves.build (Lane.Instruction.succeeds_setBank bank found _)
    executes := by
      have run := simulates.executes
      rw [Function.execute?] at run ⊢
      rw [Array.toList_push, List.foldlM_append, run]
      exact executed
    agrees := {
      statePointer := simulates.agrees.statePointer
      memory := simulates.agrees.memory.store bank content
      values := simulates.agrees.values }
    count := simulates.count
    frame := by
      intro address outside
      rw [← simulates.frame address outside]
      exact Memory.store_outside bank.isLt outside content }

theorem step (documented : Documented semantics)
    (simulates : Simulates semantics registers memory pointer function progress builder state)
    (admissible : instruction.Admissible (progress.values.map Datum.type)) :
    ∃ later after,
      Simulates semantics registers memory pointer (function.build instruction) later
        (builder.build instruction) after ∧
      later.values.map Datum.type = progress.values.map Datum.type ++
        (instruction.resultType? ((progress.values.map Datum.type)[·]?)).toList := by
  cases makesValue : instruction.makesValue with
  | true =>
      rcases simulates.agrees.makesAlike documented admissible makesValue with
        ⟨datum, succeeds, makes⟩
      rcases simulates.make succeeds makes with ⟨after, simulatesAfter⟩
      have typed : instruction.resultType? ((progress.values.map Datum.type)[·]?) =
          some datum.type :=
        Lane.Function.resultType?_of_make (fun value => List.getElem?_map) (succeeds 0)
      refine ⟨_, after, simulatesAfter, ?_⟩
      rw [typed]
      simp [Progress.apply]
  | false =>
      cases admissible with
      | @setBank bank image inside typed =>
          rcases Lane.exists_image typed with ⟨content, found⟩
          rcases simulates.commit documented ⟨bank, inside⟩ found with ⟨after, simulatesAfter⟩
          refine ⟨_, after, simulatesAfter, ?_⟩
          simp [Progress.apply, Lane.Instruction.resultType?]
      | _ => cases makesValue

/-- Both functions come equally far on any admissible code. -/
theorem foldl_build (documented : Documented semantics) {types : List ValueType}
    {code : Lane.Code} (admissible : Lane.Code.Admissible types code) :
    ∀ {function : Lane.Function} {progress : Progress} {builder : Builder} {state : State},
      Simulates semantics registers memory pointer function progress builder state →
      progress.values.map Datum.type = types →
      ∃ later after, Simulates semantics registers memory pointer
        (code.foldl Lane.Function.build function) later (code.foldl Builder.build builder)
        after := by
  induction admissible with
  | nil types =>
      intro function progress builder state simulates _
      exact ⟨progress, state, simulates⟩
  | cons first rest induction =>
      intro function progress builder state simulates typed
      subst typed
      rcases simulates.step documented first with ⟨later, after, simulatesAfter, typedAfter⟩
      exact induction simulatesAfter typedAfter

end Simulates

/-- Admissible code built into a function of lane code and into a backend function
has values of equal types in both. Over any registers the first runs without an
error, and the second, executed by a documented backend on a guest state that
consists of the bytes of these registers, closed or not, leaves the bytes of the
registers that the first leaves, and no byte outside of the guest state changed. -/
theorem execute?_eq_run [FloatArithmetic] (semantics : Semantics)
    (documented : Documented semantics)
    (code : Lane.Code) (admissible : Lane.Code.Admissible [] code) (name : String)
    (registers : RegisterFile) (memory : Memory) (pointer : BitVec 64)
    (holds : memory.Holds pointer registers) :
    let function := code.foldl Lane.CodeBuilder.build ({ name := name } : Lane.Function)
    let builder := code.foldl Lane.CodeBuilder.build ({} : Builder)
    (∀ value, Lane.CodeBuilder.typeOf? builder value = Lane.CodeBuilder.typeOf? function value) ∧
    ∃ after state,
      function.run registers = ⟨after, .ok ()⟩ ∧
      builder.function.execute? semantics (.start memory pointer) = some state ∧
      builder.function.close.execute? semantics (.start memory pointer) = some state ∧
      state.memory.Holds pointer after ∧
      ∀ address, 256 ≤ (address - pointer).toNat → state.memory address = memory address := by
  rcases (Simulates.empty semantics holds name).foldl_build documented admissible rfl with
    ⟨later, state, simulates⟩
  have closed := (Function.execute?_close documented _ _).trans simulates.executes
  exact ⟨simulates.typeOf?_eq, later.registers, state, simulates.leaves.run, simulates.executes,
    closed, simulates.agrees.memory, simulates.frame⟩

private def accumulating : Lane.Code :=
  [.getBank 1, .extractLane (.scalar .f32) 0 0, .extractLane (.scalar .f32) 0 1,
    .extractLane (.scalar .f32) 0 2, .binary .fmul 2 3, .binary .fadd 1 4,
    .insertLane (.scalar .f32) 0 5 3, .setBank 1 6]

private def quarters : RegisterFile :=
  RegisterFile.zero.setBank 1 0x40000000_3fc00000_3e800000

/-- The guest state wraps around the end of the memory. -/
private def wrapping : BitVec 64 := -24

/-- The sum of 0.25 and 1.5 times 2 is 3.25. -/
theorem execute?_eq_run_accumulating :
    Documented reference ∧ Lane.Code.Admissible [] accumulating ∧
    (Memory.ofRegisters wrapping quarters).Holds wrapping quarters ∧
    ∃ state,
      (accumulating.foldl Lane.CodeBuilder.build ({} : Builder)).function.close.execute? reference
        (.start (.ofRegisters wrapping quarters) wrapping) = some state ∧
      state.memory 6 = 0x50 ∧ state.memory 7 = 0x40 := by
  have admissible : Lane.Code.Admissible [] accumulating :=
    .cons (.getBank (by decide)) <|
    .cons (.extractLane rfl (by decide)) <|
    .cons (.extractLane rfl (by decide)) <|
    .cons (.extractLane rfl (by decide)) <|
    .cons (.binary rfl rfl rfl (.inr ⟨rfl, rfl⟩)) <|
    .cons (.binary rfl rfl rfl (.inr ⟨rfl, rfl⟩)) <|
    .cons (.insertLane rfl rfl (by decide) (.inl rfl)) <|
    .cons (.setBank (by decide) rfl) (.nil _)
  have holds := Memory.holds_ofRegisters wrapping quarters
  have result := execute?_eq_run reference documented_reference accumulating admissible
    "accumulating" quarters (.ofRegisters wrapping quarters) wrapping holds
  rcases result with ⟨_, after, state, run, _, executes, holdsAfter, _⟩
  have isAfter : after = (Lane.Function.run (accumulating.foldl Lane.CodeBuilder.build
      ({ name := "accumulating" } : Lane.Function)) quarters).registers := by
    rw [run]
  subst isAfter
  refine ⟨documented_reference, admissible, holds, state, executes, ?_, ?_⟩
  · exact (holdsAfter 30 (by decide)).trans (by decide +kernel)
  · exact (holdsAfter 31 (by decide)).trans (by decide +kernel)

end LaneLift.Backend
