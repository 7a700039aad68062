import StoryAtlas.Session.Host
import StoryAtlas.Settings.Written
import StoryAtlas.Story

/-! The settings of a run.
A configuration file named by the user is used in any case; otherwise the one below the working
directory comes before the one of the system, and without either the defaults hold.
-/

namespace StoryAtlas.Session

/-- Why a configuration file was chosen. -/
inductive Origin
  | explicit
  | workingDirectory
  | system
deriving DecidableEq

def Origin.name : Origin → String
  | explicit => "explicit"
  | workingDirectory => "local"
  | system => "system"

/-- A configuration file to be used. -/
structure ConfigFile where
  origin : Origin
  path : String
deriving DecidableEq

/-- The configuration file of a working directory. -/
def localConfigPath : String := "plotgraph/config.toml"

/-- The settings in the text of a configuration file, whose pattern has to be usable. -/
def settingsOfFile (path text : String) : Except ConfigFault Settings :=
  match Settings.ofToml text with
  | .error fault => .error (.invalidToml path fault.message)
  | .ok settings =>
      match settings.conventions.pattern with
      | .error cause => .error (.invalidSetting path cause)
      | .ok _ => .ok settings

variable {m : Type → Type} [Monad m] [Host m]

/-- The configuration file to be used, if there is one. -/
def findConfig (systemPath : Option String) (explicit : Option String)
    : m (Option ConfigFile) := do
  match explicit with
  | some path => return some ⟨.explicit, path⟩
  | none =>
      if ← Host.isFile localConfigPath then
        return some ⟨.workingDirectory, localConfigPath⟩
      match systemPath with
      | none =>
          Host.note (.debug "No platform configuration directory")
          return none
      | some path =>
          if ← Host.isFile path then return some ⟨.system, path⟩
          Host.note (.debug "System configuration file not found" [("path", path)])
          return none

/-- The text of a file. -/
def readFile (path : String) : ExceptT Failure m String := do
  match ← Host.readText (m := m) path with
  | .ok text => return text
  | .error fault => throw (.file fault)

/-- The settings of a run. -/
def loadSettings (systemPath : Option String) (explicit : Option String)
    : ExceptT Failure m Settings := do
  match ← findConfig (m := m) systemPath explicit with
  | none =>
      Host.note (m := m) (.debug "No configuration file found, using defaults")
      return {}
  | some file =>
      Host.note (m := m)
        (.info "Loading configuration" [("origin", file.origin.name), ("path", file.path)])
      if ← Host.isFile (m := m) file.path then
        match settingsOfFile file.path (← readFile file.path) with
        | .ok settings => return settings
        | .error fault => throw (.config fault)
      else throw (.config (.fileNotFound file.path))

end StoryAtlas.Session
