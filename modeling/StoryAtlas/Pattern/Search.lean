import StoryAtlas.Pattern.Program
import StoryAtlas.Pattern.Property
import Std.Data.HashSet

/-! Searching a text for matches of a program.
A match follows the preferred way of each choice and comes back for the other one only when the
first fails.  No instruction is tried twice at one place: the first time has decided it, or is
still going on and an empty loop has come round.  Matches of a text do not overlap, and an empty
match does not directly follow another one.
-/

namespace StoryAtlas.Pattern

/-- A place of a text: the character before it, the characters ahead and its offset in
characters. -/
structure Place where
  before : Option Char
  ahead : List Char
  offset : Nat

namespace Place

def start (chars : List Char) : Place :=
  ⟨none, chars, 0⟩

/-- The place behind the next character. -/
def next? (place : Place) : Option Place :=
  match place.ahead with
  | [] => none
  | c :: rest => some ⟨some c, rest, place.offset + 1⟩

end Place

/-- Whether a character stands at a side of a place and is one of words. -/
def isWordAt (ascii : Bool) (c? : Option Char) : Bool :=
  c?.any (if ascii then isAsciiWordChar else isWordChar)

/-- Whether a condition holds at a place. -/
def Look.holds (condition : Look) (place : Place) : Bool :=
  let before := place.before
  let after := place.ahead.head?
  match condition with
  | textStart => before.isNone
  | textEnd => after.isNone
  | lineStart => before.isNone || before == some '\n'
  | lineEnd => after.isNone || after == some '\n'
  | crlfLineStart =>
      before.isNone || before == some '\n' || (before == some '\r' && after != some '\n')
  | crlfLineEnd =>
      after.isNone || after == some '\r' || (after == some '\n' && before != some '\r')
  | wordBoundary ascii => isWordAt ascii before != isWordAt ascii after
  | notWordBoundary ascii => isWordAt ascii before == isWordAt ascii after
  | wordStart ascii => !isWordAt ascii before && isWordAt ascii after
  | wordEnd ascii => isWordAt ascii before && !isWordAt ascii after
  | wordStartHalf ascii => !isWordAt ascii before
  | wordEndHalf ascii => !isWordAt ascii after

/-- The instructions that have been tried, with the offsets. -/
abbrev Visited := Std.HashSet (Nat × Nat)

/-- The places noted on the way, the latest first. -/
abbrev Marks := List (Nat × Nat)

/-- Tries an instruction at a place, and the ways behind it in their order.  The first argument
bounds the length of a way.  A match gives the place of its end and the marks. -/
def Program.explore (program : Program)
    : Nat → Visited → Nat → Place → Marks → Visited × Option (Place × Marks)
  | 0, visited, _, _, _ => (visited, none)
  | steps + 1, visited, number, place, marks =>
      if visited.contains (number, place.offset) then (visited, none)
      else
        let visited := visited.insert (number, place.offset)
        match program.code[number]? with
        | none => (visited, none)
        | some .accept => (visited, some (place, marks))
        | some (.consume chars next) =>
            match place.ahead with
            | [] => (visited, none)
            | c :: rest =>
                if chars.contains c then
                  program.explore steps visited next ⟨some c, rest, place.offset + 1⟩ marks
                else (visited, none)
        | some (.choose preferred other) =>
            match program.explore steps visited preferred place marks with
            | (visited, some found) => (visited, some found)
            | (visited, none) => program.explore steps visited other place marks
        | some (.mark slot next) =>
            program.explore steps visited next place ((slot, place.offset) :: marks)
        | some (.check condition next) =>
            if condition.holds place then program.explore steps visited next place marks
            else (visited, none)

/-- A match: the places of its start and its end, and the marks of its groups. -/
structure Match where
  start : Place
  stop : Place
  marks : Marks

/-- The number of characters of a match. -/
def Match.length (found : Match) : Nat :=
  found.stop.offset - found.start.offset

/-- The piece of the text that a group covers, if it takes part in a match.  A group lies within
its match. -/
def Match.group? (found : Match) (index : Nat) : Option (List Char) := do
  let start ← found.marks.lookup (2 * index)
  let stop ← found.marks.lookup (2 * index + 1)
  some ((found.start.ahead.drop (start - found.start.offset)).take (stop - start))

/-- A bound for the length of a way through a text: each instruction once at each place. -/
def Program.wayBound (program : Program) (length : Nat) : Nat :=
  program.code.size * (length + 1) + 1

/-- The first match that starts at the place with the given sides or later.  The first number
bounds the length of a way. -/
def Program.searchFrom (program : Program) (bound : Nat) (visited : Visited)
    (before : Option Char) (offset : Nat) (ahead : List Char)
    : Option Match :=
  let place : Place := ⟨before, ahead, offset⟩
  match program.explore bound visited program.start place [] with
  | (_, some (stop, marks)) => some ⟨place, stop, marks⟩
  | (visited, none) =>
      match ahead with
      | [] => none
      | c :: rest => program.searchFrom bound visited (some c) (offset + 1) rest

/-- The first match at a place or later. -/
def Program.search (program : Program) (bound : Nat) (place : Place) : Option Match :=
  program.searchFrom bound ∅ place.before place.offset place.ahead

/-- The first match at a place or later that is not empty right behind the previous match. -/
def Program.searchAfter (program : Program) (bound : Nat) (place : Place)
    (previous : Option Nat)
    : Option Match :=
  match program.search bound place with
  | none => none
  | some found =>
      if found.length = 0 ∧ previous = some found.stop.offset then
        place.next?.bind (program.search bound)
      else some found

/-- All matches from a place on, one after the other.  The second number bounds how many. -/
def Program.matchesFrom (program : Program) (bound : Nat)
    : Nat → Place → Option Nat → List Match
  | 0, _, _ => []
  | count + 1, place, previous =>
      match program.searchAfter bound place previous with
      | none => []
      | some found =>
          found :: program.matchesFrom bound count found.stop (some found.stop.offset)

end StoryAtlas.Pattern
