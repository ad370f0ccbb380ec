/-!
# Tokens of JSON text

Text is split one character at a time. The words between punctuation are
collected and judged at their end: the three literals, or a number. Only numbers
without sign, fraction and exponent have a value here; strings are kept as
escape units until their end, where surrogates have to pair up.
-/

namespace LaneLift.Stored

inductive Token where
  | openObject
  | closeObject
  | openArray
  | closeArray
  | colon
  | comma
  | null
  | boolean (value : Bool)
  /-- A number, and its value if it is written as a plain natural number. -/
  | number (value : Option Nat)
  /-- A string, and its text unless it has an unpaired surrogate. -/
  | string (text : Option String)
  deriving DecidableEq, Repr

/-- A part of a string: a character as it is, or a unit given by an escape. -/
inductive Unit16 where
  | character (character : Char)
  | escaped (unit : Nat)
  deriving DecidableEq, Repr

/-- Does a unit open, or close, a surrogate pair? -/
def isHighSurrogate (unit : Nat) : Bool := 0xd800 ≤ unit && unit < 0xdc00

def isLowSurrogate (unit : Nat) : Bool := 0xdc00 ≤ unit && unit < 0xe000

def joinUnits : List Unit16 → Option (List Char)
  | [] => some []
  | .character character :: rest => (joinUnits rest).map (character :: ·)
  | .escaped high :: .escaped low :: rest =>
      if isHighSurrogate high then
        if isLowSurrogate low then
          (joinUnits rest).map
            (Char.ofNat (0x10000 + (high - 0xd800) * 0x400 + (low - 0xdc00)) :: ·)
        else
          none
      else if isLowSurrogate high then
        none
      else
        (joinUnits (.escaped low :: rest)).map (Char.ofNat high :: ·)
  | .escaped unit :: rest =>
      if isHighSurrogate unit || isLowSurrogate unit then
        none
      else
        (joinUnits rest).map (Char.ofNat unit :: ·)

def decimalValue (digits : List Char) : Nat :=
  digits.foldl (fun value digit => 10 * value + (digit.toNat - '0'.toNat)) 0

/-- Is this an exponent, or nothing? -/
def isExponentPart : List Char → Bool
  | [] => true
  | mark :: rest =>
      (mark = 'e' || mark = 'E') &&
        match rest with
        | '+' :: digits | '-' :: digits => !digits.isEmpty && digits.all Char.isDigit
        | digits => !digits.isEmpty && digits.all Char.isDigit

/-- Is this a fraction, or nothing, before an exponent or nothing? -/
def isFractionPart : List Char → Bool
  | '.' :: rest =>
      let digits := rest.takeWhile Char.isDigit
      !digits.isEmpty && isExponentPart (rest.dropWhile Char.isDigit)
  | rest => isExponentPart rest

/-- The token of a number without its sign. Zeros do not lead. -/
def unsignedToken? (word : List Char) : Option Token :=
  let whole := word.takeWhile Char.isDigit
  let rest := word.dropWhile Char.isDigit
  if whole.isEmpty || (whole.head? = some '0' && 1 < whole.length) || !isFractionPart rest then
    none
  else if rest.isEmpty then
    some (.number (some (decimalValue whole)))
  else
    some (.number none)

def wordToken? (word : List Char) : Option Token :=
  if word = "null".toList then some .null
  else if word = "true".toList then some (.boolean true)
  else if word = "false".toList then some (.boolean false)
  else
    match word with
    | '-' :: rest => (unsignedToken? rest).map fun _ => .number none
    | _ => unsignedToken? word

def punctuation? : Char → Option Token
  | '\x7b' => some .openObject
  | '\x7d' => some .closeObject
  | '[' => some .openArray
  | ']' => some .closeArray
  | ':' => some .colon
  | ',' => some .comma
  | _ => none

def isBlank (character : Char) : Bool :=
  character = ' ' || character = '\n' || character = '\t' || character = '\r'

/-- What a backslash and a character stand for, apart from unit escapes. -/
def simpleEscape? : Char → Option Char
  | '"' => some '"'
  | '\\' => some '\\'
  | '/' => some '/'
  | 'b' => some '\x08'
  | 'f' => some '\x0c'
  | 'n' => some '\n'
  | 'r' => some '\r'
  | 't' => some '\t'
  | _ => none

/-- The value of a hexadecimal digit of either case. -/
def hexadecimalDigit? (character : Char) : Option Nat :=
  if character.isDigit then some (character.toNat - '0'.toNat)
  else if 'a' ≤ character ∧ character ≤ 'f' then some (character.toNat - 'a'.toNat + 10)
  else if 'A' ≤ character ∧ character ≤ 'F' then some (character.toNat - 'A'.toNat + 10)
  else none

/-- Where the scanner stands. Collected parts are kept last first. -/
inductive ScanState where
  | blank
  | word (collected : List Char)
  | string (collected : List Unit16)
  | escape (collected : List Unit16)
  | unit (collected : List Unit16) (digits value : Nat)
  deriving Repr

/-- The state and the tokens, last first, after a character that is in no
string. -/
def scanOutside (tokens : List Token) (character : Char) : ScanState × List Token :=
  match punctuation? character with
  | some token => (.blank, token :: tokens)
  | none =>
      if isBlank character then (.blank, tokens)
      else if character = '"' then (.string [], tokens)
      else (.word [character], tokens)

def scan (progress : ScanState × List Token) (character : Char) :
    Option (ScanState × List Token) :=
  let (state, tokens) := progress
  match state with
  | .blank => some (scanOutside tokens character)
  | .word collected =>
      if (punctuation? character).isSome || isBlank character || character = '"' then
        (wordToken? collected.reverse).map fun token => scanOutside (token :: tokens) character
      else
        some (.word (character :: collected), tokens)
  | .string collected =>
      if character = '"' then
        some (.blank, .string ((joinUnits collected.reverse).map String.ofList) :: tokens)
      else if character = '\\' then
        some (.escape collected, tokens)
      else if character.toNat < 0x20 then
        none
      else
        some (.string (.character character :: collected), tokens)
  | .escape collected =>
      if character = 'u' then
        some (.unit collected 0 0, tokens)
      else
        (simpleEscape? character).map fun meant =>
          (.string (.character meant :: collected), tokens)
  | .unit collected digits value =>
      (hexadecimalDigit? character).map fun digit =>
        let extended := 16 * value + digit
        if digits = 3 then
          (.string (.escaped extended :: collected), tokens)
        else
          (.unit collected (digits + 1) extended, tokens)

def tokens? (text : String) : Option (List Token) := do
  let (state, tokens) ← text.toList.foldlM scan (.blank, [])
  match state with
  | .blank => some tokens.reverse
  | .word collected => (wordToken? collected.reverse).map fun token => (token :: tokens).reverse
  | _ => none

end LaneLift.Stored
