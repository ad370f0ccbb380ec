import LaneLift.Stored.Token

/-!
# JSON values

A value is read from its tokens one at a time, with the unfinished arrays and
objects around it on a stack. Object members stay in order and may repeat.
-/

namespace LaneLift.Stored

/-- A JSON value. Numbers and strings are as in their tokens. -/
inductive Json where
  | null
  | boolean (value : Bool)
  | number (value : Option Nat)
  | string (text : Option String)
  | array (items : List Json)
  | object (members : List (Option String × Json))
  deriving Repr

/-- An array or object whose end has not been reached; what it has so far is
kept last first. -/
inductive Frame where
  | array (items : List Json)
  | object (members : List (Option String × Json))
  /-- An object in which the value of a key is being read. -/
  | member (members : List (Option String × Json)) (key : Option String)
  deriving Repr

inductive Expectation where
  | value
  /-- A value, or the end of an array that has no items yet. -/
  | valueOrEnd
  | key
  /-- A key, or the end of an object that has no members yet. -/
  | keyOrEnd
  | colon (key : Option String)
  /-- A comma or the end, after an item or member. -/
  | separator
  /-- Nothing: the whole value has been read. -/
  | nothing (value : Json)
  deriving Repr

structure ReadState where
  stack : List Frame := []
  expected : Expectation := .value
  deriving Repr

/-- A value has been read inside of the frames of a stack. -/
def ReadState.finish (value : Json) : List Frame → ReadState
  | [] => ⟨[], .nothing value⟩
  | .array items :: stack => ⟨.array (value :: items) :: stack, .separator⟩
  | .member members key :: stack => ⟨.object ((key, value) :: members) :: stack, .separator⟩
  | .object members :: stack => ⟨.object members :: stack, .separator⟩

def ReadState.begin (stack : List Frame) : Token → Option ReadState
  | .null => some (.finish .null stack)
  | .boolean value => some (.finish (.boolean value) stack)
  | .number value => some (.finish (.number value) stack)
  | .string text => some (.finish (.string text) stack)
  | .openArray => some ⟨.array [] :: stack, .valueOrEnd⟩
  | .openObject => some ⟨.object [] :: stack, .keyOrEnd⟩
  | _ => none

def ReadState.read (state : ReadState) (token : Token) : Option ReadState :=
  match state.expected, token, state.stack with
  | .value, token, stack => ReadState.begin stack token
  | .valueOrEnd, .closeArray, .array items :: stack => some (.finish (.array items.reverse) stack)
  | .valueOrEnd, token, stack => ReadState.begin stack token
  | .keyOrEnd, .closeObject, .object members :: stack =>
      some (.finish (.object members.reverse) stack)
  | .key, .string key, stack | .keyOrEnd, .string key, stack => some ⟨stack, .colon key⟩
  | .colon key, .colon, .object members :: stack => some ⟨.member members key :: stack, .value⟩
  | .separator, .comma, .array items :: stack => some ⟨.array items :: stack, .value⟩
  | .separator, .comma, .object members :: stack => some ⟨.object members :: stack, .key⟩
  | .separator, .closeArray, .array items :: stack => some (.finish (.array items.reverse) stack)
  | .separator, .closeObject, .object members :: stack =>
      some (.finish (.object members.reverse) stack)
  | _, _, _ => none

def Json.read? (text : String) : Option Json := do
  let tokens ← tokens? text
  let state ← tokens.foldlM ReadState.read {}
  match state.expected with
  | .nothing value => some value
  | _ => none

end LaneLift.Stored
