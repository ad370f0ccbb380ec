import LaneLift.Lifting.Body
import LaneLift.Proofs.Lane.Computing

/-!
# The meaning of bodies

A body consists of arithmetic, so it has a meaning of its own: the value that it
computes from its arguments. Wherever its code is placed, it makes this value
of the operands found there.
-/

namespace LaneLift.Lifting

open Lane (Code Datum Instruction ScalarType)

theorem getElem?_append_of_some {α : Type} {before behind : List α} {index : Nat} {entry : α}
    (found : before[index]? = some entry) : (before ++ behind)[index]? = some entry := by
  rw [List.getElem?_append_left (List.getElem?_eq_some_iff.mp found).1, found]

namespace Body

def evaluate? [FloatArithmetic] (body : Body) (arguments : List Datum) : Option Datum := do
  let values ← body.code.compute? arguments
  values[body.result]?

/-- The body computes a scalar whose low bits, zero-extended if it is narrower, are
the value. -/
def Yields [FloatArithmetic] (body : Body) (arguments : List Datum) {width : Nat}
    (value : BitVec width) : Prop :=
  ∃ (type : ScalarType) (pattern : BitVec type.width),
    body.evaluate? arguments = some (.scalar type pattern) ∧ pattern.setWidth width = value

/-- Operands go by their outside names, and what is made behind them is numbered
on from the values before. -/
theorem getElem?_outside {values arguments : List Datum} {operands : List Nat}
    (found : operands.map (values[·]?) = arguments.map some) (made : List Datum) (value : Nat)
    (datum : Datum) (defined : (arguments ++ made)[value]? = some datum) :
    (values ++ made)[outside operands values.length value]? = some datum := by
  have sameCount : operands.length = arguments.length := by
    simpa using congrArg List.length found
  rw [outside]
  split
  · rename_i inside
    have argument : arguments[value]? = some datum := by
      rwa [List.getElem?_append_left (by omega)] at defined
    have operand : values[operands[value]]? = some datum := by
      have entry := congrArg (·[value]?) found
      simpa [inside, argument] using entry
    have earlier := (List.getElem?_eq_some_iff.mp operand).1
    rw [List.getElem?_append_left earlier, operand]
  · rename_i outside
    rw [List.getElem?_append_right (by omega)] at defined
    rw [List.getElem?_append_right (by omega), Nat.add_sub_cancel_left, sameCount]
    exact defined

variable [FloatArithmetic]

/-- A placed body makes the value that it computes from the operands. -/
theorem reaches_place {body : Body} {values arguments : List Datum} {operands : List Nat}
    {datum : Datum} (found : operands.map (values[·]?) = arguments.map some)
    (evaluates : body.evaluate? arguments = some datum) (registers : RegisterFile) :
    ∃ made,
      Code.Reaches ⟨values, registers⟩ (body.place operands values.length)
        ⟨values ++ made, registers⟩ ∧
      (values ++ made)[body.placedResult operands values.length]? = some datum := by
  simp only [evaluate?, Option.bind_eq_bind, Option.bind_eq_some_iff] at evaluates
  rcases evaluates with ⟨computed, isComputed, result⟩
  have start : body.code.compute? (arguments ++ []) = some computed := by simpa using isComputed
  rcases Code.reaches_of_compute? (getElem?_outside found) registers body.code [] start with
    ⟨made, isAll, run⟩
  refine ⟨made, by simpa [place] using run, ?_⟩
  apply getElem?_outside found
  rw [isAll] at result
  simpa using result

/-! ## Bodies of one or two operations -/

theorem evaluate?_operand (x : Datum) : operand.evaluate? [x] = some x := rfl

theorem evaluate?_unary (opcode : Lane.Opcode) (x : Datum) :
    (unary opcode).evaluate? [x] = x.unary? opcode := by
  cases made : x.unary? opcode <;>
    simp [evaluate?, unary, Code.compute?, Instruction.compute?, made]

theorem evaluate?_binary (opcode : Lane.Opcode) (x y : Datum) :
    (binary opcode).evaluate? [x, y] = x.binary? opcode y := by
  cases made : x.binary? opcode y <;>
    simp [evaluate?, binary, Code.compute?, Instruction.compute?, made]

theorem evaluate?_accumulate (multiply combine : Lane.Opcode) (d x y : Datum) :
    (accumulate multiply combine).evaluate? [d, x, y] =
      (x.binary? multiply y).bind (d.binary? combine) := by
  cases product : x.binary? multiply y with
  | none => simp [evaluate?, accumulate, Code.compute?, Instruction.compute?, product]
  | some made =>
      cases sum : d.binary? combine made <;>
        simp [evaluate?, accumulate, Code.compute?, Instruction.compute?, product, sum]

end Body

end LaneLift.Lifting
