import StoryAtlas.Span

/-! Problems of a markup text, as they are shown to its author.
A diagnostic has a code, a message and labels that point into the source.  A parse error is the
list of the diagnostics found before reading stopped, shown as its first one and a count.
-/

namespace StoryAtlas

/-- The kind of a problem. -/
inductive ErrorCode
  /-- Wrong markup, a mismatched end tag or text before the root element. -/
  | malformed
  /-- The input ended while an element was open. -/
  | unclosedElement
  /-- A reference to an entity that is not known. -/
  | undefinedEntity
  /-- No element at all. -/
  | missingRoot
  /-- A second top-level element, or text after the root element. -/
  | contentAfterRoot
  /-- An attribute that cannot be read. -/
  | malformedAttribute
deriving DecidableEq

namespace ErrorCode

/-- The name under which a code is shown. -/
def name : ErrorCode → String
  | malformed => "E001"
  | unclosedElement => "E002"
  | undefinedEntity => "E003"
  | missingRoot => "E004"
  | contentAfterRoot => "E005"
  | malformedAttribute => "E006"

/-- A few words on the problem. -/
def summary : ErrorCode → String
  | malformed => "malformed XML"
  | unclosedElement => "unclosed element"
  | undefinedEntity => "undefined entity"
  | missingRoot => "missing root element"
  | contentAfterRoot => "content after root element"
  | malformedAttribute => "malformed attribute"

/-- The codes in the order of their names. -/
def all : List ErrorCode :=
  [malformed, unclosedElement, undefinedEntity, missingRoot, contentAfterRoot, malformedAttribute]

end ErrorCode

/-- Whether a label marks the problem itself or a place that explains it. -/
inductive LabelKind
  | primary
  | context
deriving DecidableEq

/-- A message attached to a range of the source. -/
structure Label where
  kind : LabelKind
  span : Span
  message : String
deriving DecidableEq

/-- One problem of a source text. -/
structure Diagnostic where
  code : ErrorCode
  message : String
  labels : List Label := []
  help : Option String := none
deriving DecidableEq

namespace Diagnostic

/-- The range of the first primary label. -/
def primarySpan? (diagnostic : Diagnostic) : Option Span :=
  (diagnostic.labels.find? fun label => label.kind = .primary).map Label.span

/-- The line that shows a diagnostic. -/
def headline (diagnostic : Diagnostic) : String :=
  "error[" ++ diagnostic.code.name ++ "]: " ++ diagnostic.message

end Diagnostic

/-- The problems found before reading stopped, in the order in which they were met. -/
structure ParseError where
  diagnostics : List Diagnostic
deriving DecidableEq

namespace ParseError

/-- The first diagnostic and the number of the others. -/
def message (error : ParseError) : String :=
  match error.diagnostics with
  | [] => "invalid XML document"
  | [only] => only.headline
  | first :: rest => first.headline ++ " (+" ++ toString rest.length ++ " more)"

/-- Whether some diagnostic has the code. -/
def hasCode (error : ParseError) (code : ErrorCode) : Bool :=
  error.diagnostics.any fun diagnostic => diagnostic.code = code

/-- The codes that occur, in the order of their names. -/
def codes (error : ParseError) : List ErrorCode :=
  ErrorCode.all.filter error.hasCode

end ParseError

end StoryAtlas
