import LaneLift.Float.Format
import LaneLift.Text.Hexadecimal

/-!
# Hexadecimal text of floating-point patterns

A finite number is written as `0x1.` (normal) or `0x0.` (subnormal), all
fraction digits in hexadecimal, and the power of two in decimal. Zeros are
`0.0`. Infinities and NaNs always carry a sign; a NaN also carries its payload,
the fraction without its top bit, and that top bit tells a quiet NaN from a
signalling one.
-/

namespace LaneLift.FloatFormat

def fractionDigits (format : FloatFormat) : Nat :=
  (format.fractionBits + 3) / 4

/-- The fraction, left-aligned in its hexadecimal digits. -/
def fractionText (format : FloatFormat) (pattern : BitVec format.width) : String :=
  Hexadecimal.padded format.fractionDigits
    (format.fraction pattern <<< (4 * format.fractionDigits - format.fractionBits))

/-- The text of a NaN behind its sign. A quiet NaN without payload is bare. -/
def nanText (format : FloatFormat) (pattern : BitVec format.width) : String :=
  let quietBit := 1 <<< (format.fractionBits - 1)
  let payload := format.fraction pattern % quietBit
  if format.fraction pattern < quietBit then
    "sNaN:0x" ++ Hexadecimal.plain payload
  else if payload = 0 then
    "NaN"
  else
    "NaN:0x" ++ Hexadecimal.plain payload

def text (format : FloatFormat) (pattern : BitVec format.width) : String :=
  let exponent := format.exponent pattern
  let minus := if pattern.msb then "-" else ""
  let sign := if pattern.msb then "-" else "+"
  if exponent = format.specialExponent then
    if format.fraction pattern = 0 then sign ++ "Inf" else sign ++ format.nanText pattern
  else if exponent = 0 then
    if format.fraction pattern = 0 then
      minus ++ "0.0"
    else
      minus ++ "0x0." ++ format.fractionText pattern ++ "p" ++ toString (1 - format.bias)
  else
    minus ++ "0x1." ++ format.fractionText pattern ++ "p" ++
      toString ((exponent : Int) - format.bias)

example : single.text 0x40490fdb#32 = "0x1.921fb6p1" := by decide +kernel
example : single.text 0x80000001#32 = "-0x0.000002p-126" := by decide +kernel
example : single.text 0x7fc00000#32 = "+NaN" := by decide +kernel
example : double.text 0xfff0000000000001#64 = "-sNaN:0x1" := by decide +kernel

end LaneLift.FloatFormat
