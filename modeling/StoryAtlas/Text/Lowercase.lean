import StoryAtlas.Text.Unicode.CaseMap
import StoryAtlas.Text.Unicode.Category

/-! Lower case.
Letters are mapped one by one, with two exceptions: the dotted capital I becomes two characters,
and a capital sigma at the end of a word becomes the final sigma.
-/

namespace StoryAtlas.Text

open StoryAtlas.Text.Unicode

/-- Whether the nearest character that casing does not ignore is cased. -/
def nextIsCased (chars : List Char) : Bool :=
  match chars.dropWhile isCaseIgnorable with
  | [] => false
  | c :: _ => isCased c

/-- The lower case form of one character, given the characters before it in reverse and those
behind it. -/
def lowerChar (before : List Char) (c : Char) (after : List Char) : List Char :=
  if c.toNat < 0x80 then [c.toLower]
  else if c = 'İ' then ['i', '\u0307']
  else if c = 'Σ' then
    if nextIsCased before && !nextIsCased after then ['ς'] else ['σ']
  else [Char.ofNat (applyRows lowerRows c.toNat)]

/-- The lower case form of characters, given those before them in reverse. -/
def lowerFrom (before : List Char) : List Char → List Char
  | [] => []
  | c :: after => lowerChar before c after ++ lowerFrom (c :: before) after

/-- The lower case form of a text. -/
def toLowercase (text : String) : String :=
  String.ofList (lowerFrom [] text.toList)

end StoryAtlas.Text
