import LaneLift.Lane.ValueType
import LaneLift.Register.Class
import LaneLift.Stored.Json
import LaneLift.Settings

/-!
# Stored forms

Settings, names and handles are stored as JSON. Settings are an object with one
member per switch, in any order and among members of other names, or an array of
the switches in order. A name is a string, or an object whose only member has
that name and is null. A handle is a number that fits in 32 bits.
-/

namespace LaneLift.Stored

def nameForm (name : String) : String := "\"" ++ name ++ "\""

def readName? : Json → Option String
  | .string text => text
  | .object [(name, .null)] => name
  | _ => none

/-- Read one of several things by its name. -/
def readNamed? (things : List α) (nameOf : α → String) (text : String) : Option α := do
  let name ← readName? (← Json.read? text)
  things.find? fun thing => nameOf thing = name

def typeName (type : Lane.ValueType) : String :=
  type.name.toUpper

def readType? : String → Option Lane.ValueType :=
  readNamed? Lane.ValueType.all typeName

def readClass? : String → Option RegisterClass :=
  readNamed? RegisterClass.all RegisterClass.name

/-- A handle: a number of 32 bits. -/
def readHandle? (text : String) : Option Nat := do
  match ← Json.read? text with
  | .number (some value) => if value < 0x100000000 then some value else none
  | _ => none

def handleForm (handle : Nat) : String := toString handle

/-- The member of a setting: it is there once, and it is a boolean. Members
with an unpaired surrogate in their name spoil the object. -/
def member? (members : List (Option String × Json)) (setting : Setting) : Option Bool :=
  match members.filter fun (name, _) => name = some setting.name with
  | [(_, .boolean value)] => some value
  | _ => none

def settingsOf? : Json → Option Settings
  | .object members =>
      if members.all fun (name, _) => name.isSome then do
        let neon ← member? members .neon
        let vfp ← member? members .vfp
        let verifier ← member? members .verifier
        some ⟨neon, vfp, verifier⟩
      else
        none
  | .array [.boolean neon, .boolean vfp, .boolean verifier] => some ⟨neon, vfp, verifier⟩
  | _ => none

def readSettings? (text : String) : Option Settings := do
  settingsOf? (← Json.read? text)

def settingsForm (settings : Settings) : String :=
  "\x7b" ++ ",".intercalate (Setting.all.map fun setting =>
    nameForm setting.name ++ ":" ++ toString (settings.get setting)) ++ "\x7d"

example : readSettings? "[true, false ,true]" = some ⟨true, false, true⟩ := by decide +kernel
example : readSettings? (settingsForm ⟨true, false, true⟩) = some ⟨true, false, true⟩ := by
  decide +kernel
example : readHandle? " 7 " = some 7 := by decide +kernel
example : readHandle? "07" = none := by decide +kernel

end LaneLift.Stored
