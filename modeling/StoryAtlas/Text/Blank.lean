/-! Blank characters and trimming.
Two classes matter: the blanks of Unicode, which surround identifiers, labels and targets, and
the four blanks of markup, which separate the parts of a tag.  Trimming is stated on lists of
characters and lifted to text.
-/

namespace StoryAtlas.Text

/-- A character with the Unicode property White_Space. -/
def isBlank (c : Char) : Bool :=
  let n := c.toNat
  (9 ≤ n && n ≤ 13) || n == 0x20 || n == 0x85 || n == 0xA0 || n == 0x1680
    || (0x2000 ≤ n && n ≤ 0x200A) || n == 0x2028 || n == 0x2029 || n == 0x202F || n == 0x205F
    || n == 0x3000

/-- A blank of markup: space, tab, carriage return or line feed. -/
def isMarkupBlank (c : Char) : Bool :=
  c == ' ' || c == '\t' || c == '\r' || c == '\n'

theorem isBlank_of_isMarkupBlank {c : Char} (h : isMarkupBlank c = true) : isBlank c = true := by
  simp only [isMarkupBlank, Bool.or_eq_true, beq_iff_eq] at h
  rcases h with ((rfl | rfl) | rfl) | rfl <;> decide

/-- Drops the leading blanks. -/
def trimStartChars (chars : List Char) : List Char :=
  chars.dropWhile isBlank

/-- Drops the trailing characters that satisfy a test. -/
def dropEndWhile (test : Char → Bool) (chars : List Char) : List Char :=
  (chars.reverse.dropWhile test).reverse

/-- Drops the blanks at both ends. -/
def trimChars (chars : List Char) : List Char :=
  dropEndWhile isBlank (trimStartChars chars)

/-- Drops the blanks at both ends of a text. -/
def trim (text : String) : String :=
  String.ofList (trimChars text.toList)

/-- Whether a text holds no character other than blanks. -/
def isAllBlank (text : List Char) : Bool :=
  text.all isBlank

end StoryAtlas.Text
