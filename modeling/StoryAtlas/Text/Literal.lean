import StoryAtlas.Text.Unicode.Category

/-! Texts in double quotes, as records show them.
What cannot be seen in print is written as an escape: a few controls by a letter, any other such
character by its number.
-/

namespace StoryAtlas.Text

open StoryAtlas.Text.Unicode

/-- The spacing marks and other characters that join the character before them. -/
def otherJoining : List (Nat × Nat) :=
  rangesOf "9BE 9D7 B3E B57 BBE BD7 CC0 CC2 CC7-CC8 CCA-CCB CD5-CD6 D3E D57 DCF DDF 1715 1734
    1B35 1B3B 1B3D 1B43-1B44 1BAA 1BF2-1BF3 200C 302E-302F A953 A9C0 FF9E-FF9F 111C0 11235 1133E
    1134D 11357 113B8 113C2 113C5 113C7-113C9 113CF 114B0 114BD 115AF 116B6 11930 1193D 11F41
    16FF0-16FF1 1D165-1D166 1D16D-1D172 E0020-E007F"

/-- The categories of characters that are not seen, or not on their own. -/
def unseenCategories : List String :=
  ["Cc", "Cf", "Cs", "Co", "Cn", "Zl", "Zp", "Zs", "Mn", "Me"]

/-- Whether a character is seen in print by itself. -/
def isPrintable (c : Char) : Bool :=
  c == ' '
    || !(unseenCategories.contains (categoryOf c.toNat) || inRanges otherJoining c.toNat)

/-- A character of a quoted text. -/
def literalChar (c : Char) : List Char :=
  if c = '"' then ['\\', '"']
  else if c = '\\' then ['\\', '\\']
  else if c = '\n' then ['\\', 'n']
  else if c = '\r' then ['\\', 'r']
  else if c = '\t' then ['\\', 't']
  else if c = '\x00' then ['\\', '0']
  else if isPrintable c then [c]
  else ['\\', 'u', '\x7b'] ++ Nat.toDigits 16 c.toNat ++ ['\x7d']

/-- A text in quotes. -/
def literal (text : String) : String :=
  String.ofList ('"' :: (text.toList.flatMap literalChar ++ ['"']))

end StoryAtlas.Text
