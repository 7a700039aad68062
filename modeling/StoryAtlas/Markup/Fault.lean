/-! Faults of markup.
Each fault is a cause of its own with the values that its wording shows; the wording is one
function per kind of fault.
-/

namespace StoryAtlas.Markup

/-- A fault after which a text cannot be read further. -/
inductive SyntaxFault
  | tagNotClosed
  | valueNotClosed (quote : Char)
  | declarationNotClosed
  | instructionNotClosed
  | commentNotClosed
  | cdataNotClosed
  | doctypeNotClosed
  | doctypeWithoutName
  | unknownMarkup
  | referenceNotClosed
  | mismatchedEnd (expected found : String)
  | unmatchedEnd (found : String)
  | textBeforeRoot
deriving DecidableEq

/-- The wording of a construct that misses its terminator. -/
private def notClosed (construct terminator : String) : String :=
  construct ++ " not closed: `" ++ terminator ++ "` not found before end of input"

def SyntaxFault.message : SyntaxFault → String
  | tagNotClosed => "syntax error: " ++ notClosed "tag" ">"
  | valueNotClosed quote =>
      "syntax error: " ++ notClosed "attribute value" (String.singleton quote)
  | declarationNotClosed => "syntax error: " ++ notClosed "XML declaration" "?>"
  | instructionNotClosed => "syntax error: " ++ notClosed "processing instruction" "?>"
  | commentNotClosed => "syntax error: " ++ notClosed "comment" "-->"
  | cdataNotClosed => "syntax error: " ++ notClosed "CDATA" "]]>"
  | doctypeNotClosed => "syntax error: " ++ notClosed "DOCTYPE" ">"
  | doctypeWithoutName =>
      "ill-formed document: `<!DOCTYPE>` declaration does not contain a name of a document type"
  | unknownMarkup => "syntax error: unknown or missed symbol in markup"
  | referenceNotClosed =>
      "ill-formed document: " ++ notClosed "entity or character reference" ";"
  | mismatchedEnd expected found =>
      "ill-formed document: expected `</" ++ expected ++ ">`, but `</" ++ found ++ ">` was found"
  | unmatchedEnd found =>
      "ill-formed document: close tag `</" ++ found ++ ">` does not match any open tag"
  | textBeforeRoot => "text before the root element"

/-- A fault of one attribute.  Positions count bytes from behind the `<` of the tag. -/
inductive AttributeFault
  | missingEquals (position : Nat)
  | duplicate (position previous : Nat)
  | missingValue (position : Nat)
  | unquotedValue (position : Nat)
  | missingQuote (position : Nat) (quote : Char)
deriving DecidableEq

def AttributeFault.message : AttributeFault → String
  | missingEquals position =>
      "position " ++ toString position
        ++ ": attribute key must be directly followed by `=` or space"
  | duplicate position previous =>
      "position " ++ toString position
        ++ ": duplicated attribute, previous declaration at position " ++ toString previous
  | missingValue position =>
      "position " ++ toString position ++ ": `=` must be followed by an attribute value"
  | unquotedValue position =>
      "position " ++ toString position ++ ": attribute value must be enclosed in `\"` or `'`"
  | missingQuote position quote =>
      "position " ++ toString position ++ ": missing closing quote `"
        ++ String.singleton quote ++ "` in attribute value"

/-- Why a number in a character reference names no character. -/
inductive CharacterFault
  | sign
  | noDigits
  | invalidDigit
  | tooLarge
  | null
  | notACharacter (code : Nat)
deriving DecidableEq

def CharacterFault.message : CharacterFault → String
  | sign => "unexpected number sign"
  | noDigits => "cannot parse integer from empty string"
  | invalidDigit => "invalid digit found in string"
  | tooLarge => "number too large to fit in target type"
  | null => "0x0 character is not permitted in XML"
  | notACharacter code => "`" ++ toString code ++ "` is not a valid codepoint"

/-- Why a value with references cannot be expanded.  Ranges are bytes of the value. -/
inductive ExpansionFault
  | unterminated (start stop : Nat)
  | unknownEntity (start stop : Nat) (name : String)
  | character (cause : CharacterFault)
deriving DecidableEq

def ExpansionFault.message : ExpansionFault → String
  | unterminated start stop =>
      "Error while escaping character at range " ++ toString start ++ ".." ++ toString stop
        ++ ": Cannot find ';' after '&'"
  | unknownEntity start stop name =>
      "at " ++ toString start ++ ".." ++ toString stop ++ ": unrecognized entity `" ++ name ++ "`"
  | character cause => "invalid character reference: " ++ cause.message

end StoryAtlas.Markup
