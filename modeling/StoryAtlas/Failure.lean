import StoryAtlas.Diagnostic

/-! Why a run fails.
Failures are causes with the values their wording shows.  Only a missing input ends a run without
an error status.
-/

namespace StoryAtlas

/-- Why a file cannot be read or written. -/
inductive FileFault
  | notFound
  | notDirectory
  | isDirectory
  | nameTooLong
  | nulInName
  | notUtf8
  /-- Any other fault, in the words of the file system. -/
  | other (reason : String)
deriving DecidableEq

def FileFault.message : FileFault → String
  | notFound => "No such file or directory (os error 2)"
  | notDirectory => "Not a directory (os error 20)"
  | isDirectory => "Is a directory (os error 21)"
  | nameTooLong => "File name too long (os error 36)"
  | nulInName => "file name contained an unexpected NUL byte"
  | notUtf8 => "stream did not contain valid UTF-8"
  | other reason => reason

/-- Why settings cannot be used.  A detail is the finding of the reader that refused them. -/
inductive ConfigFault
  | invalidPattern (detail : String)
  | patternWithoutGroup (pattern : String)
  | fileNotFound (path : String)
  | invalidToml (path detail : String)
  | invalidSetting (path : String) (cause : ConfigFault)
deriving DecidableEq

/-- The wording behind the words for a configuration error. -/
def ConfigFault.reason : ConfigFault → String
  | invalidPattern detail => "Invalid inline pattern in config: " ++ detail
  | patternWithoutGroup pattern =>
      "Inline pattern `" ++ pattern ++ "` needs a capture group for the target"
  | fileNotFound path => "Configuration file not found: " ++ path
  | invalidToml path detail => "Invalid TOML in " ++ path ++ ": " ++ detail
  | invalidSetting path cause =>
      "Invalid setting in " ++ path ++ ": Configuration error: " ++ cause.reason

/-- Why a run fails. -/
inductive Failure
  | file (fault : FileFault)
  | inputNotFound (path : String)
  | parse (error : ParseError) (source : String)
  | config (fault : ConfigFault)
deriving DecidableEq

namespace Failure

def message : Failure → String
  | file fault => "I/O error: " ++ fault.message
  | inputNotFound path => "Input file does not exist: " ++ path
  | parse error _ => error.message
  | config fault => "Configuration error: " ++ fault.reason

/-- The exit status of a run that fails. -/
def exitStatus : Failure → Nat
  | inputNotFound _ => 0
  | _ => 1

end Failure

end StoryAtlas
