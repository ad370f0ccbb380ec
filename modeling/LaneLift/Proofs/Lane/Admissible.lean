import LaneLift.Lane.Arithmetic
import LaneLift.Lane.Code
import LaneLift.Register.File

/-!
# Admissible code

Code is admissible if it uses only values made before, each according to its
type: banks and lanes exist, integers are extended to wider integers, operations
suit the type of their operands, and a value goes into a lane of its own type,
or both are integers.
-/

namespace LaneLift.Lane

namespace Opcode

def isInteger : Opcode → Bool
  | .iadd | .isub | .imul | .smax | .smin | .umax | .umin | .band | .bor | .bxor
  | .ineg | .iabs | .bnot => true
  | _ => false

def isFloat : Opcode → Bool
  | .fadd | .fsub | .fmul | .fdiv | .fneg | .fabs | .sqrt => true
  | _ => false

def Suits (opcode : Opcode) (type : ScalarType) : Prop :=
  opcode.isInteger = true ∧ type.isInteger = true ∨ opcode.isFloat = true ∧ type.isFloat = true

variable [FloatArithmetic]

theorem exists_unary? {opcode : Opcode} {type : ScalarType} (isUnary : opcode.isUnary = true)
    (suits : opcode.Suits type) (x : BitVec type.width) :
    ∃ made, type.unary? opcode x = some made := by
  cases type <;> cases opcode <;>
    simp [Opcode.isUnary, Suits, isInteger, isFloat, ScalarType.isInteger,
      ScalarType.isFloat] at isUnary suits
  all_goals exact ⟨_, rfl⟩

theorem exists_binary? {opcode : Opcode} {type : ScalarType} (isBinary : opcode.isBinary = true)
    (suits : opcode.Suits type) (x y : BitVec type.width) :
    ∃ made, type.binary? opcode x y = some made := by
  cases type <;> cases opcode <;>
    simp [Opcode.isBinary, Suits, isInteger, isFloat, ScalarType.isInteger,
      ScalarType.isFloat] at isBinary suits
  all_goals exact ⟨_, rfl⟩

end Opcode

/-- Integer types differ in their widths. -/
theorem ScalarType.width_lt_of_ne {own type : ScalarType} (ownInteger : own.isInteger = true)
    (integer : type.isInteger = true) (different : own ≠ type)
    (notNarrower : ¬type.width < own.width) : own.width < type.width := by
  cases own <;> cases type <;> simp_all [isInteger, width]

inductive Instruction.Admissible (types : List ValueType) : Instruction → Prop
  | getBank {bank : Nat} : bank < bankCount → Admissible types (.getBank bank)
  | setBank {bank image : Nat} :
      bank < bankCount → types[image]? = some .image → Admissible types (.setBank bank image)
  | extractLane {type : ScalarType} {image lane : Nat} :
      types[image]? = some .image → lane < type.lanesPerBank →
      Admissible types (.extractLane (.scalar type) image lane)
  | insertLane {type own : ScalarType} {image value lane : Nat} :
      types[image]? = some .image → types[value]? = some (.scalar own) →
      lane < type.lanesPerBank →
      own = type ∨ own.isInteger = true ∧ type.isInteger = true →
      Admissible types (.insertLane (.scalar type) image value lane)
  | iconst {type : ScalarType} {immediate : BitVec 64} :
      type.isInteger = true → Admissible types (.iconst (.scalar type) immediate)
  | f32const {pattern : BitVec 32} : Admissible types (.f32const pattern)
  | f64const {pattern : BitVec 64} : Admissible types (.f64const pattern)
  | extend {opcode : Opcode} {type own : ScalarType} {argument : Nat} :
      opcode = .sextend ∨ opcode = .uextend → types[argument]? = some (.scalar own) →
      own.isInteger = true → type.isInteger = true → own.width < type.width →
      Admissible types (.extend opcode (.scalar type) argument)
  | unary {opcode : Opcode} {own : ScalarType} {argument : Nat} :
      opcode.isUnary = true → types[argument]? = some (.scalar own) → opcode.Suits own →
      Admissible types (.unary opcode argument)
  | binary {opcode : Opcode} {own : ScalarType} {left right : Nat} :
      opcode.isBinary = true → types[left]? = some (.scalar own) →
      types[right]? = some (.scalar own) → opcode.Suits own →
      Admissible types (.binary opcode left right)

inductive Code.Admissible : List ValueType → Code → Prop
  | nil (types : List ValueType) : Admissible types []
  | cons {types : List ValueType} {instruction : Instruction} {rest : Code} :
      instruction.Admissible types →
      Admissible (types ++ (instruction.resultType? (types[·]?)).toList) rest →
      Admissible types (instruction :: rest)

namespace Instruction.Admissible

variable {types : List ValueType} {instruction : Instruction}

theorem isSome_resultType? (admissible : instruction.Admissible types) :
    (instruction.resultType? (types[·]?)).isSome = instruction.makesValue := by
  cases admissible with
  | unary _ argument _ => simp [resultType?, argument, makesValue]
  | binary _ left _ _ => simp [resultType?, left, makesValue]
  | _ => rfl

/-- An admissible instruction is admissible under other names, as long as the values go by
those names, and makes a value of the same type. -/
theorem rename (admissible : instruction.Admissible types) {names : Nat → Nat}
    {other : List ValueType}
    (agrees : ∀ value type, types[value]? = some type → other[names value]? = some type) :
    (instruction.rename names).Admissible other ∧
      (instruction.rename names).resultType? (other[·]?) =
        instruction.resultType? (types[·]?) := by
  cases admissible with
  | getBank inside => exact ⟨.getBank inside, rfl⟩
  | setBank inside image => exact ⟨.setBank inside (agrees _ _ image), rfl⟩
  | extractLane image inside => exact ⟨.extractLane (agrees _ _ image) inside, rfl⟩
  | insertLane image value inside kind =>
      exact ⟨.insertLane (agrees _ _ image) (agrees _ _ value) inside kind, rfl⟩
  | iconst integer => exact ⟨.iconst integer, rfl⟩
  | f32const => exact ⟨.f32const, rfl⟩
  | f64const => exact ⟨.f64const, rfl⟩
  | extend isExtend argument own integer wider =>
      exact ⟨.extend isExtend (agrees _ _ argument) own integer wider, rfl⟩
  | unary isUnary argument suits =>
      refine ⟨.unary isUnary (agrees _ _ argument) suits, ?_⟩
      exact (agrees _ _ argument).trans argument.symm
  | binary isBinary left right suits =>
      refine ⟨.binary isBinary (agrees _ _ left) (agrees _ _ right) suits, ?_⟩
      exact (agrees _ _ left).trans left.symm

end Instruction.Admissible

/-! ## Types of the values made -/

inductive Code.Makes : List ValueType → Code → List ValueType → Prop
  | nil (types : List ValueType) : Makes types [] []
  | cons {types made : List ValueType} {instruction : Instruction} {rest : Code} :
      instruction.Admissible types →
      Makes (types ++ (instruction.resultType? (types[·]?)).toList) rest made →
      Makes types (instruction :: rest) ((instruction.resultType? (types[·]?)).toList ++ made)

namespace Code.Makes

variable {types made : List ValueType} {code : Code}

theorem single {instruction : Instruction} (admissible : instruction.Admissible types) :
    Makes types [instruction] (instruction.resultType? (types[·]?)).toList := by
  have whole := cons admissible (nil _)
  rwa [List.append_nil] at whole

theorem append {first second : Code} {firstMade secondMade : List ValueType}
    (left : Makes types first firstMade) (right : Makes (types ++ firstMade) second secondMade) :
    Makes types (first ++ second) (firstMade ++ secondMade) := by
  induction left with
  | nil => simpa using right
  | cons admissible _ induction =>
      rw [List.append_assoc]
      rw [← List.append_assoc] at right
      exact .cons admissible (induction right)

theorem length (makes : Makes types code made) : made.length = code.valueCount := by
  induction makes with
  | nil => rfl
  | @cons types made instruction rest admissible _ induction =>
      have makesValue := admissible.isSome_resultType?
      rw [List.length_append, induction, valueCount, valueCount, List.countP_cons, ← makesValue]
      cases instruction.resultType? (types[·]?) <;> simp [Nat.add_comm]

/-- Code makes values of the same types behind values that were made before, numbered on
from them. -/
theorem behind (makes : Makes types code made) (earlier : List ValueType) :
    Makes (earlier ++ types) (code.map (Instruction.rename (· + earlier.length))) made := by
  induction makes with
  | nil => exact .nil _
  | @cons types made instruction rest admissible _ induction =>
      have agrees : ∀ value type, types[value]? = some type →
          (earlier ++ types)[value + earlier.length]? = some type := by
        intro value type found
        rw [List.getElem?_append_right (by omega), Nat.add_sub_cancel]
        exact found
      rcases admissible.rename agrees with ⟨admissibleBehind, sameType⟩
      rw [← List.append_assoc, ← sameType] at induction
      rw [← sameType]
      exact .cons admissibleBehind induction

end Code.Makes

end LaneLift.Lane
