import StoryAtlas.Failure

/-! Reports of failures.
A parse error has one report for each diagnostic, with the source and the labels cut to it; any
other failure has one report, which names its kind.
-/

namespace StoryAtlas

/-- A labelled range of the source. -/
structure Annotation where
  primary : Bool
  offset : Nat
  length : Nat
  message : String
deriving DecidableEq

/-- One failure as it is shown. -/
structure Report where
  message : String
  code : String
  help : Option String := none
  annotations : List Annotation := []
  source : Option String := none
deriving DecidableEq

/-- A label cut to a source of so many bytes. -/
def Annotation.ofLabel (size : Nat) (label : Label) : Annotation :=
  let offset := min label.span.start size
  { primary := label.kind = .primary
    offset
    length := min label.span.length (size - offset)
    message := label.message }

namespace Report

/-- The report of a diagnostic of a source. -/
def ofDiagnostic (source : String) (diagnostic : Diagnostic) : Report :=
  { message := diagnostic.message
    code := diagnostic.code.name
    help := diagnostic.help
    annotations := diagnostic.labels.map (.ofLabel source.utf8ByteSize)
    source := some source }

/-- The reports of a parse error. -/
def ofParseError (source : String) (error : ParseError) : List Report :=
  error.diagnostics.map (ofDiagnostic source)

/-- The reports of a failure. -/
def ofFailure (failure : Failure) : List Report :=
  match failure with
  | .parse error source => ofParseError source error
  | .file _ => [{ message := failure.message, code := "plotgraph::io" }]
  | .inputNotFound _ =>
      [{ message := failure.message
         code := "plotgraph::input"
         help := some "check the path passed to --xml" }]
  | .config _ => [{ message := failure.message, code := "plotgraph::config" }]

end Report

end StoryAtlas
