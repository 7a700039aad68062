/-! Tables of code points.
A table is written as in the character database: hexadecimal ranges in ascending order, separated
by spaces or line feeds, a range of one code point without its end.
-/

namespace StoryAtlas.Text.Unicode

/-- The number of a hexadecimal numeral with capital letters, after digits already read. -/
def hexFrom (value : Nat) : List Char → Nat
  | [] => value
  | c :: rest =>
      hexFrom (value * 16 + (if c ≤ '9' then c.toNat - '0'.toNat else c.toNat - 'A'.toNat + 10))
        rest

/-- The words between the characters that satisfy a test. -/
def wordsAt (separates : Char → Bool) (chars : List Char) : List (List Char) :=
  chars.foldr
    (fun c words =>
      if separates c then [] :: words
      else
        match words with
        | [] => [[c]]
        | word :: others => (c :: word) :: others)
    [[]]

/-- The entries of a table, which stand between spaces and line feeds. -/
def entriesOf (table : String) : List (List Char) :=
  (wordsAt (fun c => c == ' ' || c == '\n') table.toList).filter fun word => !word.isEmpty

/-- The range of one entry of a table. -/
def rangeOf (entry : List Char) : Nat × Nat :=
  match wordsAt (· == '-') entry with
  | [start, stop] => (hexFrom 0 start, hexFrom 0 stop)
  | [only] => (hexFrom 0 only, hexFrom 0 only)
  | _ => (1, 0)

/-- The ranges of a table. -/
def rangesOf (table : String) : List (Nat × Nat) :=
  (entriesOf table).map rangeOf

/-- Whether a code point lies in one of the ranges. -/
def inRanges (ranges : List (Nat × Nat)) (code : Nat) : Bool :=
  ranges.any fun range => range.1 ≤ code && code ≤ range.2

end StoryAtlas.Text.Unicode
