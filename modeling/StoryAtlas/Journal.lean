/-! Records of what a run does.
A record has a level, a message and named values.  A run shows the records up to the level asked
for.
-/

namespace StoryAtlas

/-- The weight of a record, the most serious first. -/
inductive Level
  | error
  | warn
  | info
  | debug
  | trace
deriving DecidableEq

namespace Level

def name : Level → String
  | error => "ERROR"
  | warn => "WARN"
  | info => "INFO"
  | debug => "DEBUG"
  | trace => "TRACE"

/-- The place in the order of levels, from one on. -/
def rank : Level → Nat
  | error => 1
  | warn => 2
  | info => 3
  | debug => 4
  | trace => 5

end Level

/-- One thing that a run did. -/
structure Record where
  level : Level
  message : String
  fields : List (String × String) := []
deriving DecidableEq

/-- How much a run shows: the records up to a level, or none. -/
inductive Verbosity
  | off
  | upTo (level : Level)
deriving DecidableEq

namespace Verbosity

/-- The verbosity with a name in any letter case; an unknown name stands for warnings. -/
def ofName (name : String) : Verbosity :=
  let name := String.ofList (name.toList.map Char.toLower)
  if name = "off" then off
  else if name = "error" then upTo .error
  else if name = "info" then upTo .info
  else if name = "debug" then upTo .debug
  else if name = "trace" then upTo .trace
  else upTo .warn

/-- Whether a record is shown. -/
def shows (verbosity : Verbosity) (record : Record) : Bool :=
  match verbosity with
  | off => false
  | upTo level => record.level.rank ≤ level.rank

end Verbosity

namespace Record

def info (message : String) (fields : List (String × String) := []) : Record :=
  ⟨.info, message, fields⟩

def warn (message : String) (fields : List (String × String) := []) : Record :=
  ⟨.warn, message, fields⟩

def debug (message : String) (fields : List (String × String) := []) : Record :=
  ⟨.debug, message, fields⟩

def trace (message : String) (fields : List (String × String) := []) : Record :=
  ⟨.trace, message, fields⟩

end Record

end StoryAtlas
