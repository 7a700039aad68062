import StoryAtlas.Settings.Decode
import StoryAtlas.Toml.Reader

/-! Settings as they are written in a file. -/

namespace StoryAtlas.Settings

/-- Why a written text gives no settings. -/
inductive WrittenFault
  | notToml (fault : Toml.Fault)
  | unfitValue
deriving DecidableEq

def WrittenFault.message : WrittenFault → String
  | notToml fault => fault.message
  | unfitValue => "a value does not have the type of its setting"

/-- The settings that a TOML text gives. -/
def ofToml (text : String) : Except WrittenFault Settings :=
  match Toml.read text with
  | .error fault => .error (.notToml fault)
  | .ok value =>
      match ofValue? value with
      | none => .error .unfitValue
      | some settings => .ok settings

end StoryAtlas.Settings
