import StoryAtlas.Render.Escape
import StoryAtlas.Toml.Reader

/-! Written TOML documents.
A manuscript is a list of sections with every choice that is made in writing them: the quotes
around texts, and the blank lines and comments in front of each line.  It has a text and a
meaning, the values under their keys.
-/

namespace StoryAtlas.Toml

open StoryAtlas.Settings

namespace Manuscript

/-- What may stand in front of a line and means nothing. -/
inductive Gap
  | blank (char : Char) (allowed : isSpace char = true ∨ char = '\n')
  | comment (body : List Char) (allowed : ∀ c ∈ body, isControl c = false)

def Gap.written : Gap → List Char
  | blank char _ => [char]
  | comment body _ => '#' :: (body ++ ['\n'])

/-- A key without quotes. -/
structure Key where
  chars : List Char
  nonempty : chars ≠ []
  allowed : ∀ c ∈ chars, isKeyChar c = true

def Key.text (key : Key) : String :=
  String.ofList key.chars

/-- A character between double quotes.  Controls are given by their number. -/
def basicChar (c : Char) : List Char :=
  if c = '"' ∨ c = '\\' then ['\\', c]
  else if isControl c then
    ['\\', 'u', '0', '0', Render.hexDigit (c.toNat / 16), Render.hexDigit (c.toNat % 16)]
  else [c]

/-- A text with its quotes.  Between single quotes all characters stand for themselves. -/
inductive Quotation
  | basic (text : String)
  | literal (text : String) (allowed : ∀ c ∈ text.toList, c ≠ '\'' ∧ isControl c = false)

namespace Quotation

def text : Quotation → String
  | basic text => text
  | literal text _ => text

def written : Quotation → List Char
  | basic text => '"' :: (text.toList.flatMap basicChar ++ ['"'])
  | literal text _ => '\'' :: (text.toList ++ ['\''])

end Quotation

/-- A value with its notation. -/
inductive Content
  | text (quotation : Quotation)
  | texts (items : List Quotation)
  | count (value : Nat)

namespace Content

def value : Content → Value
  | text quotation => .text quotation.text
  | texts items => .list (items.map fun item => .text item.text)
  | count value => .integer value

def written : Content → List Char
  | text quotation => quotation.written
  | texts items => '[' :: ([',', ' '].intercalate (items.map Quotation.written) ++ [']'])
  | count value => Nat.toDigits 10 value

end Content

/-- A line with a key and its value. -/
structure Line where
  gaps : List Gap
  key : Key
  content : Content

def Line.written (line : Line) : List Char :=
  line.gaps.flatMap Gap.written
    ++ (line.key.chars ++ ' ' :: '=' :: ' ' :: (line.content.written ++ ['\n']))

/-- A header with the lines below it, which have different keys. -/
structure Section where
  gaps : List Gap
  name : Key
  lines : List Line
  distinct : (lines.map fun line => line.key.text).Nodup

namespace Section

def header (part : Section) : List Char :=
  part.gaps.flatMap Gap.written ++ '[' :: (part.name.chars ++ [']', '\n'])

def written (part : Section) : List Char :=
  part.header ++ part.lines.flatMap Line.written

def values (part : Section) : List (String × Value) :=
  part.lines.map fun line => (line.key.text, line.content.value)

end Section

end Manuscript

/-- A document as it is written.  Its sections have different names. -/
structure Manuscript where
  sections : List Manuscript.Section
  distinct : (sections.map fun part => part.name.text).Nodup
  ending : List Manuscript.Gap

namespace Manuscript

def written (manuscript : Manuscript) : List Char :=
  manuscript.sections.flatMap Section.written ++ manuscript.ending.flatMap Gap.written

/-- The text of the document. -/
def text (manuscript : Manuscript) : String :=
  String.ofList manuscript.written

/-- The value of a key in the section with a name. -/
def value? (manuscript : Manuscript) (name key : String) : Option Value :=
  (manuscript.sections.find? fun part => part.name.text == name).bind fun part =>
    part.values.lookup key

end Manuscript

end StoryAtlas.Toml
