import LaneLift.Float.Format

/-!
# Types of lane code values

A value is either one lane, a scalar of 8 to 64 bits, or the image of a whole
bank.
-/

namespace LaneLift.Lane

inductive ScalarType where
  | i8
  | i16
  | i32
  /-- Also the width in which integer lanes are combined. -/
  | i64
  | f32
  | f64
  deriving DecidableEq, Repr

namespace ScalarType

def all : List ScalarType :=
  [.i8, .i16, .i32, .i64, .f32, .f64]

@[reducible] def width : ScalarType → Nat
  | .i8 => 8
  | .i16 => 16
  | .i32 => 32
  | .i64 => 64
  | .f32 => 32
  | .f64 => 64

/-- How many lanes of this type a bank holds. -/
def lanesPerBank (type : ScalarType) : Nat :=
  128 / type.width

def name : ScalarType → String
  | .i8 => "i8"
  | .i16 => "i16"
  | .i32 => "i32"
  | .i64 => "i64"
  | .f32 => "f32"
  | .f64 => "f64"

def isInteger : ScalarType → Bool
  | .i8 | .i16 | .i32 | .i64 => true
  | .f32 | .f64 => false

def isFloat (type : ScalarType) : Bool :=
  !type.isInteger

/-- The integer type of `2 ^ size` bytes; only the low two bits of `size` count. -/
def integerOfSize (size : Nat) : ScalarType :=
  match size % 4 with
  | 0 => .i8
  | 1 => .i16
  | 2 => .i32
  | _ => .i64

/-- The float type that the low bit of `size` selects. -/
def floatOfSize (size : Nat) : ScalarType :=
  if size % 2 = 0 then .f32 else .f64

theorem width_pos (type : ScalarType) : 0 < type.width := by
  cases type <;> decide

theorem width_le (type : ScalarType) : type.width ≤ 64 := by
  cases type <;> decide

theorem eight_dvd_width (type : ScalarType) : 8 ∣ type.width := by
  cases type <;> decide

theorem width_mul_lanesPerBank (type : ScalarType) :
    type.width * type.lanesPerBank = 128 := by
  cases type <;> rfl

theorem mul_lane_add_le {type : ScalarType} {lane : Nat} (inside : lane < type.lanesPerBank) :
    type.width * lane + type.width ≤ 128 := by
  rw [← Nat.mul_succ, ← type.width_mul_lanesPerBank]
  exact Nat.mul_le_mul_left _ inside

end ScalarType

/-- The type of a value: one lane, or the image of a bank. -/
inductive ValueType where
  | scalar (type : ScalarType)
  | image
  deriving DecidableEq, Repr

namespace ValueType

def all : List ValueType :=
  ScalarType.all.map .scalar ++ [.image]

@[reducible] def width : ValueType → Nat
  | .scalar type => type.width
  | .image => 128

def bytes (type : ValueType) : Nat :=
  type.width / 8

def lanesPerBank (type : ValueType) : Nat :=
  128 / type.width

def name : ValueType → String
  | .scalar type => type.name
  | .image => "v128"

def isInteger : ValueType → Bool
  | .scalar type => type.isInteger
  | .image => false

def isFloat : ValueType → Bool
  | .scalar type => type.isFloat
  | .image => false

def scalar? : ValueType → Option ScalarType
  | .scalar type => some type
  | .image => none

end ValueType

end LaneLift.Lane
