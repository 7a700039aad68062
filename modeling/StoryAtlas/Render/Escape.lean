import StoryAtlas.Text.Search

/-! Escaping of text in the written forms of a graph.
A quoted string of a graph description has two escapes, a JSON string has those of its standard,
and markup has five named references.
-/

namespace StoryAtlas.Render

open StoryAtlas.Text

/-- The inside of a quoted string of a graph description.  Backslashes are escaped first, so that
those in front of quotes stay single. -/
def escapeQuoted (chars : List Char) : List Char :=
  replaceChar '"' ['\\', '"'] (replaceChar '\\' ['\\', '\\'] chars)

/-- A character inside of a quoted string of a graph description. -/
def quotedChar (c : Char) : List Char :=
  if c = '\\' then ['\\', '\\'] else if c = '"' then ['\\', '"'] else [c]

/-- Both replacements together escape each character by itself. -/
theorem escapeQuoted_eq_flatMap (chars : List Char)
    : escapeQuoted chars = chars.flatMap quotedChar := by
  have hchar (c : Char)
      : replaceChar '"' ['\\', '"'] (if c = '\\' then ['\\', '\\'] else [c]) = quotedChar c := by
    unfold quotedChar
    split
    · rfl
    · exact List.flatMap_singleton _ c
  unfold escapeQuoted
  rw [replaceChar, replaceChar, List.flatMap_assoc]
  exact congrArg chars.flatMap (funext hchar)

/-- A quoted string of a graph description. -/
def quoted (text : String) : List Char :=
  '"' :: (escapeQuoted text.toList ++ ['"'])

/-- A character of markup. -/
def markupChar (c : Char) : List Char :=
  if c = '<' then ['&', 'l', 't', ';']
  else if c = '>' then ['&', 'g', 't', ';']
  else if c = '&' then ['&', 'a', 'm', 'p', ';']
  else if c = '\'' then ['&', 'a', 'p', 'o', 's', ';']
  else if c = '"' then ['&', 'q', 'u', 'o', 't', ';']
  else [c]

/-- Text in which no character is taken for markup. -/
def escapeMarkup (chars : List Char) : List Char :=
  chars.flatMap markupChar

/-- A hexadecimal digit in small letters. -/
def hexDigit (value : Nat) : Char :=
  if value < 10 then Char.ofNat ('0'.toNat + value) else Char.ofNat ('a'.toNat + (value - 10))

/-- A character of a JSON string: quotes, backslashes and controls are escaped, the latter by a
letter where there is one. -/
def jsonChar (c : Char) : List Char :=
  if c = '"' then ['\\', '"']
  else if c = '\\' then ['\\', '\\']
  else if c = '\x08' then ['\\', 'b']
  else if c = '\x0C' then ['\\', 'f']
  else if c = '\n' then ['\\', 'n']
  else if c = '\r' then ['\\', 'r']
  else if c = '\t' then ['\\', 't']
  else if c.toNat < 0x20 then
    ['\\', 'u', '0', '0', hexDigit (c.toNat / 16), hexDigit (c.toNat % 16)]
  else [c]

/-- A JSON string. -/
def jsonString (text : String) : List Char :=
  '"' :: (text.toList.flatMap jsonChar ++ ['"'])

end StoryAtlas.Render
