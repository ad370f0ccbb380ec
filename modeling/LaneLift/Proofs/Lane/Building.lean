import LaneLift.Proofs.Lane.Typing

/-!
# Building functions

A function asserts that what it is given fits the values made so far. Admissible code
never violates an assertion, and the function that it builds is well typed.
-/

namespace LaneLift.Lane

def Instruction.InBounds : Instruction → Prop
  | .getBank bank | .setBank bank _ => bank < bankCount
  | .extractLane type _ lane | .insertLane type _ _ lane => lane < type.lanesPerBank
  | .iconst _ _ | .f32const _ | .f64const _ | .extend _ _ _ | .unary _ _ | .binary _ _ _ => True

namespace Instruction.Typed

variable {typeOf? : Nat → Option ValueType} {instruction : Instruction}

theorem inBounds (typed : instruction.Typed typeOf?) : instruction.InBounds := by
  cases typed with
  | getBank inside => exact inside
  | setBank inside _ => exact inside
  | extractLane _ inside => exact inside
  | insertLane _ _ inside => exact inside
  | _ => trivial

theorem exists_type (typed : instruction.Typed typeOf?) :
    ∀ operand ∈ instruction.operands, ∃ type, typeOf? operand = some type := by
  cases typed <;> simp_all [operands]

end Instruction.Typed

namespace Function

variable {function : Function} {types made : List ValueType} {code : Code}

/-! ## Assertions -/

/-- What a function asserts of an instruction that it is given: images stand where images
are read, lanes exist, integer constants are integers, extensions widen, and operations
have operands of one type. -/
def Accepts (function : Function) : Instruction → Prop
  | .getBank _ | .f32const _ | .f64const _ => True
  | .setBank _ image => function.typeOf? image = some .image
  | .extractLane type image lane | .insertLane type image _ lane =>
      function.typeOf? image = some .image ∧ lane < type.lanesPerBank
  | .iconst type _ => type.isInteger = true
  | .extend opcode type argument =>
      (opcode = .sextend ∨ opcode = .uextend) ∧
        ∃ own, function.typeOf? argument = some own ∧ own.width < type.width
  | .unary opcode argument =>
      opcode.isUnary = true ∧ ∃ own, function.typeOf? argument = some own
  | .binary opcode left right =>
      opcode.isBinary = true ∧
        ∃ own, function.typeOf? left = some own ∧ function.typeOf? right = some own

structure Knows (function : Function) (types : List ValueType) : Prop where
  valueCount : function.valueCount = types.length
  typeOf? : function.typeOf? = (types[·]?)

theorem Knows.accepts (knows : function.Knows types) {instruction : Instruction}
    (admissible : instruction.Admissible types) : function.Accepts instruction := by
  cases admissible <;> simp_all [Accepts, knows.typeOf?, ValueType.isInteger, ValueType.width,
    ValueType.lanesPerBank, ScalarType.lanesPerBank]

/-! ## Code -/

theorem Knows.empty (name : String) : Knows { name := name } [] := ⟨rfl, rfl⟩

theorem Knows.build (knows : function.Knows types) (instruction : Instruction) :
    (function.build instruction).Knows
      (types ++ (instruction.resultType? (types[·]?)).toList) := by
  rw [Function.build, knows.typeOf?]
  cases type : instruction.resultType? (types[·]?) with
  | none =>
      rw [Option.toList_none, List.append_nil]
      exact ⟨knows.valueCount, knows.typeOf?⟩
  | some type =>
      constructor
      · have count := knows.valueCount
        simp_all [push, Function.valueCount]
      · funext value
        have earlier := congrFun knows.typeOf? value
        have count := knows.valueCount
        simp only [Function.typeOf?, Function.valueCount, push, Array.getElem?_push,
          Option.toList_some, List.getElem?_append, List.getElem?_singleton] at earlier count ⊢
        grind

theorem Knows.foldl_build (makes : Code.Makes types code made) :
    ∀ {function : Function}, function.Knows types →
      (code.foldl Function.build function).Knows (types ++ made) := by
  induction makes with
  | nil =>
      intro function knows
      rwa [List.append_nil]
  | cons _ _ induction =>
      intro function knows
      rw [← List.append_assoc]
      exact induction (knows.build _)

theorem Knows.accepts_foldl_build {instruction : Instruction} {after : Code} :
    ∀ (before : Code) {types made : List ValueType} {function : Function},
      Code.Makes types (before ++ instruction :: after) made → function.Knows types →
        (before.foldl Function.build function).Accepts instruction
  | [], _, _, _, .cons admissible _, knows => knows.accepts admissible
  | first :: rest, _, _, _, .cons _ makes, knows =>
      accepts_foldl_build rest makes (knows.build first)

theorem WellTyped.foldl_build (makes : Code.Makes types code made) :
    ∀ {function : Function}, function.WellTyped → function.Knows types →
      (code.foldl Function.build function).WellTyped := by
  induction makes with
  | nil => exact fun wellTyped _ => wellTyped
  | cons admissible _ induction =>
      intro function wellTyped knows
      have typed := admissible.typed
      rw [← knows.typeOf?] at typed
      exact induction (wellTyped.build typed) (knows.build _)

theorem code_build (function : Function) (instruction : Instruction) :
    (function.build instruction).code = function.code ++ [instruction] :=
  function.code_push instruction _

theorem code_foldl_build :
    ∀ (code : Code) (function : Function),
      (code.foldl Function.build function).code = function.code ++ code
  | [], function => (List.append_nil function.code).symm
  | instruction :: rest, function => by
      rw [List.foldl_cons, code_foldl_build rest, code_build, List.append_assoc,
        List.singleton_append]

theorem exists_makes_appendAll :
    ∀ (segments : List Code) {function : Function} {types : List ValueType},
      (∀ segment ∈ segments, ∃ made, Code.Makes [] segment made) → function.Knows types →
        ∃ code made, Code.Makes types code made ∧
          CodeBuilder.appendAll function segments = code.foldl Function.build function
  | [], _, types, _, _ => ⟨[], [], .nil types, rfl⟩
  | segment :: rest, function, types, admissible, knows => by
      rcases admissible segment List.mem_cons_self with ⟨made, makes⟩
      have behind := makes.behind types
      rw [List.append_nil] at behind
      have appended : CodeBuilder.append function segment =
          (segment.map (Instruction.rename (· + types.length))).foldl Function.build function := by
        rw [List.foldl_map, ← knows.valueCount]
        rfl
      rcases exists_makes_appendAll rest
        (fun other member => admissible other (List.mem_cons_of_mem segment member))
        (knows.foldl_build behind) with ⟨code, later, makesRest, same⟩
      refine ⟨_, _, behind.append makesRest, ?_⟩
      rw [List.foldl_append, ← same, ← appended]
      rfl

end Function

end LaneLift.Lane
