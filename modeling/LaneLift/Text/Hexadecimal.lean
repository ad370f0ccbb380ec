/-!
# Hexadecimal numerals

Three spellings of a natural number in lower-case hexadecimal: with a fixed
number of digits, without leading zeros, and in groups of four digits.
-/

namespace LaneLift.Hexadecimal

/-- The character of one digit; only the low four bits of `value` count. -/
def digit (value : Nat) : Char :=
  match value % 16 with
  | 0 => '0' | 1 => '1' | 2 => '2' | 3 => '3'
  | 4 => '4' | 5 => '5' | 6 => '6' | 7 => '7'
  | 8 => '8' | 9 => '9' | 10 => 'a' | 11 => 'b'
  | 12 => 'c' | 13 => 'd' | 14 => 'e' | _ => 'f'

/-- The low `count` digits of `value`, most significant first. -/
def digits : (count value : Nat) → List Char
  | 0, _ => []
  | count + 1, value => digits count (value / 16) ++ [digit value]

@[simp] theorem length_digits (count value : Nat) :
    (digits count value).length = count := by
  induction count generalizing value with
  | zero => rfl
  | succ count induction => simp [digits, induction]

/-- Exactly `count` digits; higher digits of `value` are dropped. -/
def padded (count value : Nat) : String :=
  String.ofList (digits count value)

/-- The number of digits that `value` needs, at least one. -/
def digitCount (value : Nat) : Nat :=
  value.log2 / 4 + 1

/-- No leading zeros; zero is a single `0`. -/
def plain (value : Nat) : String :=
  padded (digitCount value) value

/-- Groups of four digits, most significant first, at least one group. -/
def groups (value : Nat) : List String :=
  if value < 65536 then
    [padded 4 value]
  else
    groups (value / 65536) ++ [padded 4 value]
termination_by value

/-- Groups of four digits joined by underscores, such as `0001_e240`. -/
def grouped (value : Nat) : String :=
  "_".intercalate (groups value)

example : plain 0 = "0" := by decide +kernel
example : plain 0x1000 = "1000" := by decide +kernel
example : padded 8 0xf2042d46 = "f2042d46" := by decide +kernel

end LaneLift.Hexadecimal
