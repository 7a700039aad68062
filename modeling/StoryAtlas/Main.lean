import StoryAtlas.Report
import StoryAtlas.Session.Run

/-! The command line program.
It gives the run its files, shows the records on the error stream and ends with the exit status
of the failure, if there is one.
-/

namespace StoryAtlas.Main

open StoryAtlas.Session

/-- Input and output that shows records up to a level. -/
abbrev Terminal := ReaderT Verbosity IO

/-- The type of what a path leads to. -/
def typeOf? (path : String) : IO (Option IO.FS.FileType) := do
  if path.isEmpty then return none
  try
    let metadata ← ((← IO.currentDir) / path).metadata
    return some metadata.type
  catch _ => return none

/-- The fault of a file that an error of the system tells of. -/
def faultOf (error : IO.Error) : FileFault :=
  match error with
  | .noFileOrDirectory .. => .notFound
  | error => .other (toString error)

/-- The line that shows a record. -/
def lineOf (record : Record) : String :=
  let fields := record.fields.map fun (name, value) => " " ++ name ++ "=" ++ value
  "[" ++ record.level.name ++ "] " ++ record.message ++ String.join fields

instance : Host Terminal where
  pathExists path := do return (← typeOf? path).isSome
  isFile path := do
    match ← typeOf? path with
    | some .file => return true
    | _ => return false
  readText path := do
    if path.isEmpty then return .error .notFound
    match ← typeOf? path with
    | some .dir => return .error .isDirectory
    | _ =>
        try
          match String.fromUTF8? (← IO.FS.readBinFile path) with
          | some text => return .ok text
          | none => return .error .notUtf8
        catch error => return .error (faultOf error)
  writeText path text := do
    if path.isEmpty then return .error .notFound
    match ← typeOf? path with
    | some .dir => return .error .isDirectory
    | _ =>
        try
          IO.FS.writeFile path text
          return .ok ()
        catch error => return .error (faultOf error)
  note record := do
    if (← read).shows record then IO.eprintln (lineOf record)

/-- The line that shows a report. -/
def reportLine (report : Report) : String :=
  let places := report.annotations.map fun annotation =>
    "\n  at byte " ++ toString annotation.offset ++ ": " ++ annotation.message
  let help :=
    match report.help with
    | some help => "\n  help: " ++ help
    | none => ""
  report.code ++ ": " ++ report.message ++ String.join places ++ help

/-- The text that explains the options. -/
def usage : String :=
  "\n".intercalate
    ["Usage: plotgraph -x <story.xml> [options]",
      "",
      "Options:",
      "  -x, --xml <path>         the story to read",
      "  -o, --out <path>         the interactive page to write",
      "      --out-dot <path>     the graph description to write",
      "      --use-label          show labels in place of identifiers",
      "  -c, --config <path>      the configuration file",
      "      --log-level <level>  off, error, warn, info, debug or trace",
      "  -h, --help               show this text",
      "  -V, --version            show the version"]

/-- The text that tells of a fault in the words of the command line. -/
def usageText : UsageFault → String
  | .helpRequested => usage
  | .versionRequested => "plotgraph 0.1.0"
  | .missingInput => "error: the story is missing\n\n" ++ usage
  | .unknownWord => "error: a word is not an option\n\n" ++ usage
  | .missingValue => "error: an option has no value\n\n" ++ usage
  | .unexpectedValue => "error: an option takes no value\n\n" ++ usage
  | .repeated => "error: an option is given twice\n\n" ++ usage

/-- The path of the configuration file of the system, if the environment names a place for it. -/
def systemConfigPath : IO (Option String) := do
  match ← IO.getEnv "XDG_CONFIG_HOME", ← IO.getEnv "HOME" with
  | some directory, _ => return some (directory ++ "/plotgraph/config.toml")
  | none, some home => return some (home ++ "/.config/plotgraph/config.toml")
  | none, none => return none

/-- Runs the program on the words of its command line and gives its exit status. -/
def program (words : List String) : IO UInt32 := do
  match Arguments.ofWords words with
  | .error fault =>
      if fault.exitStatus = 0 then IO.println (usageText fault)
      else IO.eprintln (usageText fault)
      return UInt32.ofNat fault.exitStatus
  | .ok arguments =>
      let session : ExceptT Failure Terminal Unit := run (← systemConfigPath) arguments
      match ← session.run.run (.ofName arguments.logLevel) with
      | .ok () => return 0
      | .error failure =>
          for report in Report.ofFailure failure do
            IO.eprintln (reportLine report)
          return UInt32.ofNat failure.exitStatus

end StoryAtlas.Main

def main (words : List String) : IO UInt32 :=
  StoryAtlas.Main.program words
