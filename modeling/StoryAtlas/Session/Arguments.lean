/-! The words of a command line.
An option takes its value from the same word or from the next one, which must not look like an
option itself.  An option is only checked when the next one is met or the words end, so that a
word that is not known at all is reported before an earlier option without a value.
-/

namespace StoryAtlas.Session

/-- What a run is asked to do. -/
structure Arguments where
  /-- The path of the story. -/
  input : String
  /-- The path of the page to write. -/
  page : Option String := none
  /-- The path of the graph description to write. -/
  description : Option String := none
  useLabel : Bool := false
  config : Option String := none
  logLevel : String := "info"
deriving DecidableEq

/-- Why the words of a command line give no arguments. -/
inductive UsageFault
  | helpRequested
  | versionRequested
  | missingInput
  | unknownWord
  | missingValue
  | unexpectedValue
  | repeated
deriving DecidableEq

/-- The exit status of a program that was called in the wrong way or only asked for help. -/
def UsageFault.exitStatus : UsageFault → Nat
  | helpRequested => 0
  | versionRequested => 0
  | _ => 2

/-- An option that takes a value. -/
inductive Parameter
  | input
  | page
  | description
  | config
  | logLevel
deriving DecidableEq

/-- An option that takes no value. -/
inductive Switch
  | useLabel
  | help
  | version
deriving DecidableEq

/-- An option of either kind. -/
inductive Choice
  | parameter (parameter : Parameter)
  | switch (switch : Switch)
deriving DecidableEq

namespace Choice

/-- The option with a name of its own word. -/
def ofName? (name : String) : Option Choice :=
  if name = "xml" then some (.parameter .input)
  else if name = "out" then some (.parameter .page)
  else if name = "out-dot" then some (.parameter .description)
  else if name = "config" then some (.parameter .config)
  else if name = "log-level" then some (.parameter .logLevel)
  else if name = "use-label" then some (.switch .useLabel)
  else if name = "help" then some (.switch .help)
  else if name = "version" then some (.switch .version)
  else none

/-- The option with a letter. -/
def ofLetter? (letter : Char) : Option Choice :=
  if letter = 'x' then some (.parameter .input)
  else if letter = 'o' then some (.parameter .page)
  else if letter = 'c' then some (.parameter .config)
  else if letter = 'h' then some (.switch .help)
  else if letter = 'V' then some (.switch .version)
  else none

end Choice

/-- An option whose value may still follow. -/
structure Pending where
  parameter : Parameter
  value : Option String := none
deriving DecidableEq

/-- What was read of the words so far. -/
structure Reading where
  values : List (Parameter × String) := []
  useLabel : Bool := false
  pending : Option Pending := none
deriving DecidableEq

namespace Reading

/-- Gives a parameter its value, which it must not have yet. -/
def set (reading : Reading) (parameter : Parameter) (value : String)
    : Except UsageFault Reading :=
  if (reading.values.lookup parameter).isSome then .error .repeated
  else .ok { reading with values := (parameter, value) :: reading.values }

/-- Finishes the option whose value might still have followed. -/
def settle (reading : Reading) : Except UsageFault Reading :=
  match reading.pending with
  | none => .ok reading
  | some ⟨_, none⟩ => .error .missingValue
  | some ⟨parameter, some value⟩ => { reading with pending := none }.set parameter value

/-- Reads an option, with the value in its word if there is one. -/
def choose (reading : Reading) (choice : Choice) (value : Option String)
    : Except UsageFault Reading :=
  match choice, value with
  | .parameter parameter, some value => do (← reading.settle).set parameter value
  | .parameter parameter, none => do
      let reading ← reading.settle
      .ok { reading with pending := some { parameter } }
  | .switch _, some _ => .error .unexpectedValue
  | .switch .useLabel, none => do
      let reading ← reading.settle
      if reading.useLabel then .error .repeated else .ok { reading with useLabel := true }
  | .switch .help, none => do
      let _ ← reading.settle
      .error .helpRequested
  | .switch .version, none => do
      let _ ← reading.settle
      .error .versionRequested

/-- Reads an option by its name, given what follows the dashes. -/
def readNamed (reading : Reading) (chars : List Char) : Except UsageFault Reading :=
  let name := String.ofList (chars.takeWhile (· != '='))
  match Choice.ofName? name with
  | none => .error .unknownWord
  | some choice =>
      match chars.dropWhile (· != '=') with
      | [] => reading.choose choice none
      | _ :: value => reading.choose choice (some (String.ofList value))

/-- Reads an option by its letter and what follows it in its word. -/
def readLettered (reading : Reading) (letter : Char) (rest : List Char)
    : Except UsageFault Reading :=
  match Choice.ofLetter? letter with
  | none => .error .unknownWord
  | some (.switch switch) => reading.choose (.switch switch) none
  | some choice =>
      match rest with
      | [] => reading.choose choice none
      | '=' :: value => reading.choose choice (some (String.ofList value))
      | value => reading.choose choice (some (String.ofList value))

/-- Takes a word as the value that the last option waits for. -/
def takeValue (reading : Reading) (word : String) : Except UsageFault Reading :=
  match reading.pending with
  | some ⟨parameter, none⟩ => .ok { reading with pending := some ⟨parameter, some word⟩ }
  | _ => .error .unknownWord

/-- Reads one word. -/
def readWord (reading : Reading) (word : String) : Except UsageFault Reading :=
  match word.toList with
  | '-' :: '-' :: chars => reading.readNamed chars
  | '-' :: letter :: rest => reading.readLettered letter rest
  | _ => reading.takeValue word

/-- Reads words to their end.  Behind two dashes there are no options any more, and there is
nothing else that could stand there. -/
def readWords (reading : Reading) : List String → Except UsageFault Reading
  | [] => reading.settle
  | word :: rest =>
      if word = "--" then if rest.isEmpty then reading.settle else .error .unknownWord
      else do (← reading.readWord word).readWords rest

/-- The arguments that were read. -/
def arguments (reading : Reading) : Except UsageFault Arguments :=
  match reading.values.lookup .input with
  | none => .error .missingInput
  | some input =>
      .ok
        { input
          page := reading.values.lookup .page
          description := reading.values.lookup .description
          useLabel := reading.useLabel
          config := reading.values.lookup .config
          logLevel := (reading.values.lookup .logLevel).getD "info" }

end Reading

/-- The arguments in the words of a command line. -/
def Arguments.ofWords (words : List String) : Except UsageFault Arguments := do
  (← Reading.readWords {} words).arguments

end StoryAtlas.Session
