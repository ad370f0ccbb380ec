/-!
# Settings

Three switches, each on by default. They are set by name, from the words that
commonly stand for true and false.
-/

namespace LaneLift

inductive Setting where
  | neon
  | vfp
  | verifier
  deriving DecidableEq, Repr

namespace Setting

/-- Every switch, in the order in which settings are written. -/
def all : List Setting := [.neon, .vfp, .verifier]

def name : Setting → String
  | .neon => "enable_neon"
  | .vfp => "enable_vfp"
  | .verifier => "enable_verifier"

def description : Setting → String
  | .neon => "Emit Advanced SIMD vector instructions."
  | .vfp => "Emit VFP scalar floating-point instructions."
  | .verifier => "Run the Cranelift verifier on every translated function."

def default : Setting → Bool
  | _ => true

def named? (name : String) : Option Setting :=
  all.find? fun setting => setting.name = name

end Setting

structure Settings where
  neon : Bool := Setting.neon.default
  vfp : Bool := Setting.vfp.default
  verifier : Bool := Setting.verifier.default
  deriving DecidableEq, Repr

inductive SettingError where
  | unknownName (name : String)
  | notBoolean
  deriving DecidableEq, Repr

def SettingError.message : SettingError → String
  | .unknownName name => "No existing setting named '" ++ name ++ "'"
  | .notBoolean => "Unexpected value for a setting, expected bool"

/-- The words for true and false. -/
def parseBoolean? : String → Option Bool
  | "true" | "on" | "yes" | "1" => some true
  | "false" | "off" | "no" | "0" => some false
  | _ => none

namespace Settings

def get (settings : Settings) : Setting → Bool
  | .neon => settings.neon
  | .vfp => settings.vfp
  | .verifier => settings.verifier

def put (settings : Settings) (setting : Setting) (value : Bool) : Settings :=
  match setting with
  | .neon => { settings with neon := value }
  | .vfp => { settings with vfp := value }
  | .verifier => { settings with verifier := value }

/-- Set a switch by name. An unknown name is reported before a bad value. -/
def set (settings : Settings) (name value : String) : Except SettingError Settings :=
  match Setting.named? name with
  | none => .error (.unknownName name)
  | some setting =>
      match parseBoolean? value with
      | none => .error .notBoolean
      | some flag => .ok (settings.put setting flag)

def enable (settings : Settings) (name : String) : Except SettingError Settings :=
  match Setting.named? name with
  | none => .error (.unknownName name)
  | some setting => .ok (settings.put setting true)

def text (settings : Settings) : String :=
  "[a32]\n" ++ String.join (Setting.all.map fun setting =>
    setting.name ++ " = " ++ toString (settings.get setting) ++ "\n")

theorem get_put (settings : Settings) (setting other : Setting) (value : Bool) :
    (settings.put setting value).get other =
      if setting = other then value else settings.get other := by
  cases setting <;> cases other <;> rfl

end Settings

end LaneLift
