import StoryAtlas.Text.Unicode.CaseMap
import StoryAtlas.Text.Unicode.Ranges

/-! Sets of code points.
A set is a list of ranges in ascending order that neither overlap nor touch.  Complements are
taken within the code points up to a bound, and a set is folded by adding every letter that
differs from one of its letters only in case.
-/

namespace StoryAtlas.Pattern

open StoryAtlas.Text.Unicode

/-- The largest code point. -/
def maxCode : Nat := 0x10FFFF

/-- Code points as ascending ranges with gaps between them. -/
structure CharSet where
  ranges : List (Nat × Nat)
deriving DecidableEq

namespace CharSet

def empty : CharSet := ⟨[]⟩

/-- Joins a range with the ascending ranges behind it. -/
def joinFrom (start stop : Nat) : List (Nat × Nat) → List (Nat × Nat)
  | [] => [(start, stop)]
  | (next, last) :: rest =>
      if next ≤ stop + 1 then joinFrom start (max stop last) rest
      else (start, stop) :: joinFrom next last rest

/-- Inserts a range by its start. -/
def insertRange (range : Nat × Nat) : List (Nat × Nat) → List (Nat × Nat)
  | [] => [range]
  | other :: rest =>
      if range.1 ≤ other.1 then range :: other :: rest else other :: insertRange range rest

/-- The set of the code points in some of the ranges. -/
def ofRanges (ranges : List (Nat × Nat)) : CharSet :=
  match (ranges.filter fun range => range.1 ≤ range.2).foldr insertRange [] with
  | [] => empty
  | (start, stop) :: rest => ⟨joinFrom start stop rest⟩

def range (start stop : Nat) : CharSet :=
  ofRanges [(start, stop)]

def singleton (c : Char) : CharSet :=
  ⟨[(c.toNat, c.toNat)]⟩

def containsCode (set : CharSet) (code : Nat) : Bool :=
  inRanges set.ranges code

def contains (set : CharSet) (c : Char) : Bool :=
  set.containsCode c.toNat

def isEmpty (set : CharSet) : Bool :=
  set.ranges.isEmpty

def union (left right : CharSet) : CharSet :=
  ofRanges (left.ranges ++ right.ranges)

/-- The code points from `next` to the bound that lie in none of the ranges. -/
def gapsFrom (bound next : Nat) : List (Nat × Nat) → List (Nat × Nat)
  | [] => if next ≤ bound then [(next, bound)] else []
  | (start, stop) :: rest =>
      (if next < start then [(next, start - 1)] else []) ++ gapsFrom bound (stop + 1) rest

/-- The code points up to a bound that are not in the set. -/
def complement (bound : Nat) (set : CharSet) : CharSet :=
  ⟨gapsFrom bound 0 set.ranges⟩

def inter (left right : CharSet) : CharSet :=
  complement maxCode (union (complement maxCode left) (complement maxCode right))

def difference (left right : CharSet) : CharSet :=
  inter left (complement maxCode right)

def symmetricDifference (left right : CharSet) : CharSet :=
  union (difference left right) (difference right left)

/-- Whether all members lie below a bound. -/
def isBelow (bound : Nat) (set : CharSet) : Bool :=
  set.ranges.all fun range => range.2 < bound

/-- Adds the letters that differ from a member only in case, by the rows of simple folding. -/
def foldCase (set : CharSet) : CharSet :=
  let pairs := foldRows.flatMap CaseRow.pairs
  let folded :=
    union set
      (ofRanges (pairs.filterMap fun (code, target) =>
        if set.containsCode code then some (target, target) else none))
  union folded
    (ofRanges (pairs.filterMap fun (code, target) =>
      if folded.containsCode target then some (code, code) else none))

/-- Adds the other case of the letters without an accent. -/
def foldAsciiCase (set : CharSet) : CharSet :=
  let shift (start offset : Nat) : List (Nat × Nat) :=
    (List.range 26).filterMap fun i =>
      if set.containsCode (start + i) then some (offset + i, offset + i) else none
  union set (ofRanges (shift 0x41 0x61 ++ shift 0x61 0x41))

end CharSet

end StoryAtlas.Pattern
