import LaneLift.Proofs.Lane.Admissible
import LaneLift.Proofs.Lane.Arithmetic
import LaneLift.Proofs.Lane.Computing

/-!
# Integer lanes as numbers

What the operations on integer lanes make is said of the numbers that the patterns stand for,
with a sign or without one, modulo the power of two that the width of the lanes gives. An
operation on lanes that it does not suit makes nothing and is an error.
-/

namespace LaneLift.Lane

namespace Opcode

def Maps {width : Nat} (x made : BitVec width) : Opcode → Prop
  | .ineg => (made.toNat : Int) = -x.toNat % (2 ^ width : Nat)
  | .iabs => made.toNat = x.toInt.natAbs % 2 ^ width
  | .bnot => ∀ bit < width, made.getLsbD bit = !x.getLsbD bit
  | _ => False

def Combines {width : Nat} (x y made : BitVec width) : Opcode → Prop
  | .iadd => made.toNat = (x.toNat + y.toNat) % 2 ^ width
  | .isub => (made.toNat : Int) = (x.toNat - y.toNat : Int) % (2 ^ width : Nat)
  | .imul => made.toNat = (x.toNat * y.toNat) % 2 ^ width
  | .smax => made.toInt = max x.toInt y.toInt
  | .smin => made.toInt = min x.toInt y.toInt
  | .umax => made.toNat = max x.toNat y.toNat
  | .umin => made.toNat = min x.toNat y.toNat
  | .band => ∀ bit < width, made.getLsbD bit = (x.getLsbD bit && y.getLsbD bit)
  | .bor => ∀ bit < width, made.getLsbD bit = (x.getLsbD bit || y.getLsbD bit)
  | .bxor => ∀ bit < width, made.getLsbD bit = (x.getLsbD bit ^^ y.getLsbD bit)
  | _ => False

end Opcode

/-! ## Wrapping arithmetic on numbers -/

section Numbers

variable {width : Nat} (x y : BitVec width)

theorem toNat_sub_eq_emod :
    ((x - y).toNat : Int) = (x.toNat - y.toNat : Int) % (2 ^ width : Nat) := by
  have inside : y.toNat ≤ 2 ^ width := Nat.le_of_lt y.isLt
  have shifted : ((2 ^ width - y.toNat + x.toNat : Nat) : Int) =
      (x.toNat - y.toNat : Int) + (2 ^ width : Nat) := by omega
  rw [BitVec.toNat_sub, Int.natCast_emod, shifted, Int.add_emod_right]

theorem toNat_neg_eq_emod : ((-x).toNat : Int) = -x.toNat % (2 ^ width : Nat) := by
  have difference := toNat_sub_eq_emod (BitVec.ofNat width 0) x
  rwa [BitVec.zero_sub, BitVec.toNat_zero, Int.natCast_zero, Int.zero_sub] at difference

theorem toNat_abs_eq_mod : x.abs.toNat = x.toInt.natAbs % 2 ^ width := by
  have bound := x.isLt
  rw [BitVec.toNat_abs]
  cases sign : x.msb with
  | false =>
      have number : x.toInt = x.toNat := by rw [BitVec.toInt_eq_msb_cond, sign]; rfl
      rw [number, Int.natAbs_natCast, Nat.mod_eq_of_lt bound]
      rfl
  | true =>
      have number : x.toInt = x.toNat - (2 ^ width : Nat) := by
        rw [BitVec.toInt_eq_msb_cond, sign]
        rfl
      have positive : x.toNat ≠ 0 := by
        intro zero
        rw [BitVec.eq_of_toNat_eq (zero.trans BitVec.toNat_zero.symm), BitVec.msb_zero] at sign
        cases sign
      have magnitude : x.toInt.natAbs = 2 ^ width - x.toNat := by omega
      rw [magnitude, Nat.mod_eq_of_lt (by omega)]
      rfl

theorem toInt_smax : (if x.sle y then y else x).toInt = max x.toInt y.toInt := by
  by_cases ordered : x.toInt ≤ y.toInt
  · rw [if_pos (BitVec.sle_iff_toInt_le.mpr ordered), Int.max_eq_right ordered]
  · rw [if_neg (ordered ∘ BitVec.sle_iff_toInt_le.mp), Int.max_eq_left (Int.le_of_not_le ordered)]

theorem toInt_smin : (if x.sle y then x else y).toInt = min x.toInt y.toInt := by
  by_cases ordered : x.toInt ≤ y.toInt
  · rw [if_pos (BitVec.sle_iff_toInt_le.mpr ordered), Int.min_eq_left ordered]
  · rw [if_neg (ordered ∘ BitVec.sle_iff_toInt_le.mp), Int.min_eq_right (Int.le_of_not_le ordered)]

theorem toNat_umax : (if x.ule y then y else x).toNat = max x.toNat y.toNat := by
  by_cases ordered : x.toNat ≤ y.toNat
  · simp [BitVec.ule, ordered]
  · simp [BitVec.ule, ordered, Nat.max_eq_left (Nat.le_of_not_le ordered)]

theorem toNat_umin : (if x.ule y then x else y).toNat = min x.toNat y.toNat := by
  by_cases ordered : x.toNat ≤ y.toNat
  · simp [BitVec.ule, ordered]
  · simp [BitVec.ule, ordered, Nat.min_eq_right (Nat.le_of_not_le ordered)]

end Numbers

namespace Opcode

variable {width : Nat} {opcode : Opcode} {x y made : BitVec width}

theorem maps_of_wrappingUnary? (wraps : opcode.wrappingUnary? x = some made) :
    opcode.Maps x made := by
  cases opcode <;> try cases wraps
  case ineg => exact toNat_neg_eq_emod x
  case iabs => exact toNat_abs_eq_mod x
  case bnot =>
    intro bit inside
    rw [BitVec.getLsbD_not, decide_eq_true inside, Bool.true_and]

theorem combines_of_wrappingBinary? (wraps : opcode.wrappingBinary? x y = some made) :
    opcode.Combines x y made := by
  cases opcode <;> try cases wraps
  case iadd => exact BitVec.toNat_add x y
  case isub => exact toNat_sub_eq_emod x y
  case imul => exact BitVec.toNat_mul x y
  case smax => exact toInt_smax x y
  case smin => exact toInt_smin x y
  case umax => exact toNat_umax x y
  case umin => exact toNat_umin x y
  case band => exact fun bit _ => BitVec.getLsbD_and
  case bor => exact fun bit _ => BitVec.getLsbD_or
  case bxor => exact fun bit _ => BitVec.getLsbD_xor

end Opcode

/-! ## Integers -/

section Integers

variable [FloatArithmetic] {type : ScalarType} {opcode : Opcode}

theorem Datum.exists_maps (integer : type.isInteger = true) (isInteger : opcode.isInteger = true)
    (isUnary : opcode.isUnary = true) (x : BitVec type.width) :
    ∃ made, opcode.Maps x made ∧
      (Datum.scalar type x).unary? opcode = some (.scalar type made) := by
  rcases Opcode.exists_unary? isUnary (.inl ⟨isInteger, integer⟩) x with ⟨made, computed⟩
  have wraps := computed
  rw [ScalarType.unary?_eq_wrapping integer] at wraps
  refine ⟨made, Opcode.maps_of_wrappingUnary? wraps, ?_⟩
  rw [Datum.unary?, computed, Option.map_some]

theorem Datum.exists_combines (integer : type.isInteger = true)
    (isInteger : opcode.isInteger = true) (isBinary : opcode.isBinary = true)
    (x y : BitVec type.width) :
    ∃ made, opcode.Combines x y made ∧
      (Datum.scalar type x).binary? opcode (.scalar type y) = some (.scalar type made) := by
  rcases Opcode.exists_binary? isBinary (.inl ⟨isInteger, integer⟩) x y with ⟨made, computed⟩
  have wraps := computed
  rw [ScalarType.binary?_eq_wrapping integer] at wraps
  refine ⟨made, Opcode.combines_of_wrappingBinary? wraps, ?_⟩
  rw [Datum.binary?, dif_pos rfl, computed, Option.map_some]

theorem Datum.unary?_intMin (integer : type.isInteger = true)
    (isSign : opcode = .ineg ∨ opcode = .iabs) :
    (Datum.scalar type (.intMin type.width)).unary? opcode =
      some (.scalar type (.intMin type.width)) := by
  have keeps : opcode.wrappingUnary? (BitVec.intMin type.width) = some (.intMin type.width) := by
    rcases isSign with rfl | rfl
    · exact congrArg some BitVec.neg_intMin
    · exact congrArg some BitVec.abs_intMin
  rw [Datum.unary?, ScalarType.unary?_eq_wrapping integer, keeps, Option.map_some]

end Integers

/-! ## What suits an operation -/

namespace Opcode

def Fits (opcode : Opcode) (type : ValueType) : Prop :=
  ∃ scalar, type = .scalar scalar ∧ opcode.Suits scalar

variable [FloatArithmetic]

theorem suits_of_unary? {opcode : Opcode} {type : ScalarType} {x made : BitVec type.width}
    (computed : type.unary? opcode x = some made) :
    opcode.isUnary = true ∧ opcode.Suits type := by
  cases type <;> cases opcode <;>
    first | exact ⟨rfl, .inl ⟨rfl, rfl⟩⟩ | exact ⟨rfl, .inr ⟨rfl, rfl⟩⟩ | cases computed

theorem suits_of_binary? {opcode : Opcode} {type : ScalarType} {x y made : BitVec type.width}
    (computed : type.binary? opcode x y = some made) :
    opcode.isBinary = true ∧ opcode.Suits type := by
  cases type <;> cases opcode <;>
    first | exact ⟨rfl, .inl ⟨rfl, rfl⟩⟩ | exact ⟨rfl, .inr ⟨rfl, rfl⟩⟩ | cases computed

end Opcode

namespace Datum

variable [FloatArithmetic] {opcode : Opcode} {x y : Datum}

theorem unary?_eq_none (unfit : ¬(opcode.isUnary = true ∧ opcode.Fits x.type)) :
    x.unary? opcode = none := by
  cases x with
  | image content => rfl
  | scalar type pattern =>
      rw [unary?, Option.map_eq_none_iff, Option.eq_none_iff_forall_ne_some]
      intro made computed
      rcases Opcode.suits_of_unary? computed with ⟨isUnary, suits⟩
      exact unfit ⟨isUnary, type, rfl, suits⟩

theorem binary?_eq_none (unfit : ¬(opcode.isBinary = true ∧ opcode.Fits x.type)) :
    x.binary? opcode y = none := by
  cases x with
  | image content => rfl
  | scalar type pattern =>
      rw [Option.eq_none_iff_forall_ne_some]
      intro made computed
      cases y with
      | image content => cases computed
      | scalar otherType otherPattern =>
          by_cases same : otherType = type
          · subst same
            rw [binary?, dif_pos rfl] at computed
            rcases Option.map_eq_some_iff.mp computed with ⟨result, isResult, _⟩
            rcases Opcode.suits_of_binary? isResult with ⟨isBinary, suits⟩
            exact unfit ⟨isBinary, otherType, rfl, suits⟩
          · rw [binary?, dif_neg same] at computed
            cases computed

end Datum

/-! ## Instructions -/

section Effects

variable [FloatArithmetic] {position : Nat} {values : Values} {registers : RegisterFile}
    {opcode : Opcode}

theorem effect_unary {argument : Nat} {x : Datum} (found : values argument = some x) :
    (Instruction.unary opcode argument).effect position values registers =
      makeOr position opcode x.type (x.unary? opcode) := by
  rw [Instruction.effect, operand_eq_ok.mpr found]
  rfl

theorem effect_binary {left right : Nat} {x y : Datum} (foundLeft : values left = some x)
    (foundRight : values right = some y) :
    (Instruction.binary opcode left right).effect position values registers =
      if x.type = y.type then makeOr position opcode x.type (x.binary? opcode y)
      else .error (.invalidType position opcode y.type) := by
  rw [Instruction.effect, operand_eq_ok.mpr foundLeft, operand_eq_ok.mpr foundRight]
  rfl

/-- An integer is extended as if it were not taken through 64 bits. -/
theorem effect_extend_of_integer {argument : Nat} {type wider : ScalarType}
    {x : BitVec type.width} (integer : type.isInteger = true)
    (found : values argument = some (.scalar type x)) :
    (Instruction.extend .sextend (.scalar wider) argument).effect position values registers =
      .ok (.make (.scalar wider (x.signExtend wider.width))) ∧
    (Instruction.extend .uextend (.scalar wider) argument).effect position values registers =
      .ok (.make (.scalar wider (x.setWidth wider.width))) := by
  have throughSigned := setWidth_signExtend wider.width_le x
  have throughUnsigned := BitVec.setWidth_setWidth_of_le x wider.width_le
  constructor
  · rw [Instruction.effect_extend, operand_eq_ok.mpr found]
    simp only [bind, Except.bind, if_true, Datum.signed?, integer, Datum.ofBits?, makeOr,
      throughSigned]
  · rw [Instruction.effect_extend, operand_eq_ok.mpr found]
    simp only [bind, Except.bind, reduceCtorEq, if_false, Datum.unsigned?, integer, if_true,
      Datum.ofBits?, makeOr, throughUnsigned]

theorem effect_extend_of_not_integer {argument : Nat} {x : Datum} {type : ValueType}
    (found : values argument = some x) (notInteger : x.type.isInteger = false) :
    (Instruction.extend opcode type argument).effect position values registers =
      .error (.invalidType position opcode x.type) := by
  rw [Instruction.effect_extend, operand_eq_ok.mpr found]
  cases x with
  | image content => simp only [bind, Except.bind, Datum.signed?, Datum.unsigned?, ite_self]
  | scalar own pattern =>
      have ownNotInteger : own.isInteger = false := notInteger
      simp only [bind, Except.bind, Datum.signed?, Datum.unsigned?, ownNotInteger,
        Bool.false_eq_true, if_false, ite_self]

end Effects

/-- Operations on integer lanes make the patterns of the numbers that they stand for: sums and
products modulo the power of two for the width, maxima with a sign or without. The least number
with a sign is its own negation and its own absolute value. An extended lane is the one wider
pattern of the same number. Of 64 bits, a lane of any type takes the low ones and gives them
back. An instruction whose operands have values fails only if its operation does not suit them,
and the error says so. -/
theorem integer_lanes_exact [FloatArithmetic] (type : ScalarType) (integer : type.isInteger = true)
    (position : Nat) (values : Values) (registers : RegisterFile) :
    (∀ (opcode : Opcode) (x : BitVec type.width),
      opcode.isInteger = true → opcode.isUnary = true →
        ∃ made, opcode.Maps x made ∧
          (Datum.scalar type x).unary? opcode = some (.scalar type made)) ∧
    (∀ (opcode : Opcode) (x y : BitVec type.width),
      opcode.isInteger = true → opcode.isBinary = true →
        ∃ made, opcode.Combines x y made ∧
          (Datum.scalar type x).binary? opcode (.scalar type y) = some (.scalar type made)) ∧
    (∀ opcode, opcode = .ineg ∨ opcode = .iabs →
      (Datum.scalar type (.intMin type.width)).unary? opcode =
        some (.scalar type (.intMin type.width))) ∧
    (∀ (wider : ScalarType) (argument : Nat) (x : BitVec type.width),
      type.width ≤ wider.width → values argument = some (.scalar type x) →
        ∃ signed unsigned : BitVec wider.width,
          (Instruction.extend .sextend (.scalar wider) argument).effect position values
            registers = .ok (.make (.scalar wider signed)) ∧
          (Instruction.extend .uextend (.scalar wider) argument).effect position values
            registers = .ok (.make (.scalar wider unsigned)) ∧
          (∀ pattern, pattern.toInt = x.toInt ↔ pattern = signed) ∧
          ∀ pattern, pattern.toNat = x.toNat ↔ pattern = unsigned) ∧
    (∀ (scalar : ScalarType) (bits : BitVec 64), ∃ made lowBits,
      Datum.ofBits? (.scalar scalar) bits = some made ∧ made.type = .scalar scalar ∧
      made.bits? = some lowBits ∧ lowBits.toNat = bits.toNat % 2 ^ scalar.width) ∧
    (∀ (opcode : Opcode) (argument : Nat) (x : Datum), values argument = some x →
      (∀ made, x.unary? opcode = some made →
        (Instruction.unary opcode argument).effect position values registers =
          .ok (.make made)) ∧
      (¬(opcode.isUnary = true ∧ opcode.Fits x.type) →
        (Instruction.unary opcode argument).effect position values registers =
          .error (.invalidType position opcode x.type)) ∧
      (x.type.isInteger = false → ∀ target,
        (Instruction.extend opcode target argument).effect position values registers =
          .error (.invalidType position opcode x.type))) ∧
    ∀ (opcode : Opcode) (left right : Nat) (x y : Datum),
      values left = some x → values right = some y →
      (∀ made, x.binary? opcode y = some made →
        (Instruction.binary opcode left right).effect position values registers =
          .ok (.make made)) ∧
      (x.type = y.type → ¬(opcode.isBinary = true ∧ opcode.Fits x.type) →
        (Instruction.binary opcode left right).effect position values registers =
          .error (.invalidType position opcode x.type)) ∧
      (x.type ≠ y.type →
        (Instruction.binary opcode left right).effect position values registers =
          .error (.invalidType position opcode y.type)) := by
  refine ⟨?_, ?_, ?_, ?_, ?_, ?_, ?_⟩
  · exact fun opcode x isInteger isUnary => Datum.exists_maps integer isInteger isUnary x
  · exact fun opcode x y isInteger isBinary => Datum.exists_combines integer isInteger isBinary x y
  · exact fun opcode isSign => Datum.unary?_intMin integer isSign
  · intro wider argument x widens found
    refine ⟨x.signExtend wider.width, x.setWidth wider.width,
      (effect_extend_of_integer integer found).1, (effect_extend_of_integer integer found).2,
      fun pattern => ?_, fun pattern => ?_⟩
    · rw [← BitVec.toInt_signExtend_of_le widens, BitVec.toInt_inj]
    · rw [← BitVec.toNat_setWidth_of_le widens, BitVec.toNat_inj]
  · intro scalar bits
    refine ⟨_, _, rfl, rfl, rfl, ?_⟩
    rw [BitVec.toNat_setWidth_of_le scalar.width_le, BitVec.toNat_setWidth]
  · intro opcode argument x found
    refine ⟨?_, ?_, fun notInteger target => effect_extend_of_not_integer found notInteger⟩
    · intro made computed
      rw [effect_unary found, computed, makeOr]
    · intro unfit
      rw [effect_unary found, Datum.unary?_eq_none unfit, makeOr]
  · intro opcode left right x y foundLeft foundRight
    refine ⟨?_, ?_, ?_⟩
    · intro made computed
      rw [effect_binary foundLeft foundRight, if_pos (Datum.type_eq_of_binary? computed), computed,
        makeOr]
    · intro same unfit
      rw [effect_binary foundLeft foundRight, if_pos same, Datum.binary?_eq_none unfit, makeOr]
    · intro different
      rw [effect_binary foundLeft foundRight, if_neg different]

private def unlikeValues : Values :=
  .ofList [.scalar .i8 0x80, .scalar .f32 0x3f800000, .image 0]

theorem integer_lanes_exact_least :
    ScalarType.i8.isInteger = true ∧
    (∃ made : BitVec 8, made.toInt = 1 ∧
      (Datum.scalar .i8 0x80).binary? .smax (.scalar .i8 0x01) = some (.scalar .i8 made)) ∧
    (∃ made : BitVec 8, made.toNat = 0x80 ∧
      (Datum.scalar .i8 0x80).binary? .umax (.scalar .i8 0x01) = some (.scalar .i8 made)) ∧
    (∃ signed : BitVec 16, signed.toInt = -128 ∧
      (Instruction.extend .sextend (.scalar .i16) 0).effect 7 unlikeValues .zero =
        .ok (.make (.scalar .i16 signed))) ∧
    (Instruction.unary .ineg 1).effect 7 unlikeValues .zero =
      .error (.invalidType 7 .ineg (.scalar .f32)) ∧
    (Instruction.binary .fadd 2 2).effect 7 unlikeValues .zero =
      .error (.invalidType 7 .fadd .image) := by
  rcases integer_lanes_exact .i8 rfl 7 unlikeValues .zero with
    ⟨_, combines, _, extends', _, unfit, unfitPair⟩
  refine ⟨rfl, ?_, ?_, ?_, ?_, ?_⟩
  · exact combines .smax 0x80 0x01 rfl rfl
  · exact combines .umax 0x80 0x01 rfl rfl
  · rcases extends' .i16 0 0x80 (by decide) rfl with ⟨signed, _, effect, _, only, _⟩
    exact ⟨signed, (only signed).mpr rfl, effect⟩
  · apply (unfit .ineg 1 _ rfl).2.1
    rintro ⟨_, scalar, isScalar, suits⟩
    cases isScalar
    rcases suits with ⟨_, misfit⟩ | ⟨misfit, _⟩ <;> cases misfit
  · apply (unfitPair .fadd 2 2 _ _ rfl rfl).2.1 rfl
    rintro ⟨_, scalar, isScalar, _⟩
    cases isScalar

end LaneLift.Lane
