import StoryAtlas.Pattern.CharSet

/-! Expressions of patterns.
An expression says what a piece of text may be and which of several ways is preferred: the left
side of a choice, and more or fewer rounds of a repetition.
-/

namespace StoryAtlas.Pattern

/-- A condition on the place between two characters. -/
inductive Look
  | textStart
  | textEnd
  | lineStart
  | lineEnd
  /-- The start of a line where a return with a line feed behind it is one break. -/
  | crlfLineStart
  | crlfLineEnd
  | wordBoundary (ascii : Bool)
  | notWordBoundary (ascii : Bool)
  | wordStart (ascii : Bool)
  | wordEnd (ascii : Bool)
  | wordStartHalf (ascii : Bool)
  | wordEndHalf (ascii : Bool)
deriving DecidableEq

/-- What a piece of text may be. -/
inductive Expr
  | empty
  | set (chars : CharSet)
  | look (condition : Look)
  | group (index : Nat) (inner : Expr)
  | seq (first second : Expr)
  | either (preferred other : Expr)
  /-- At least `least` and at most `most` rounds, more of them preferred if `greedy`. -/
  | rounds (inner : Expr) (least : Nat) (most : Option Nat) (greedy : Bool)
deriving DecidableEq

namespace Expr

/-- The expressions one after the other. -/
def ofSeq : List Expr → Expr
  | [] => empty
  | [only] => only
  | first :: rest => seq first (ofSeq rest)

/-- One of the expressions, earlier ones preferred. -/
def ofChoices : List Expr → Expr
  | [] => empty
  | [only] => only
  | first :: rest => either first (ofChoices rest)

/-- The least number of characters of a text, none if no text fits. -/
def minLength? : Expr → Option Nat
  | empty => some 0
  | set chars => if chars.isEmpty then none else some 1
  | look _ => some 0
  | group _ inner => inner.minLength?
  | seq first second => do some ((← first.minLength?) + (← second.minLength?))
  | either preferred other => do some (min (← preferred.minLength?) (← other.minLength?))
  | rounds inner least _ _ => inner.minLength?.map (· * least)

/-- Whether only the empty text can fit. -/
def isAlwaysEmpty : Expr → Bool
  | empty => true
  | set _ => false
  | look _ => true
  | group _ inner => inner.isAlwaysEmpty
  | seq first second => first.isAlwaysEmpty && second.isAlwaysEmpty
  | either preferred other => preferred.isAlwaysEmpty && other.isAlwaysEmpty
  | rounds inner _ most _ => inner.isAlwaysEmpty || most == some 0

/-- A repetition in its plainest form: rounds of empty text are at most one, no round at all is
the empty expression, and a single round is the expression itself. -/
def ofRounds (inner : Expr) (least : Nat) (most : Option Nat) (greedy : Bool) : Expr :=
  let least' := if inner.isAlwaysEmpty then min least 1 else least
  let most' := if inner.isAlwaysEmpty then some ((most.map (min · 1)).getD 1) else most
  if least' = 0 ∧ most' = some 0 then empty
  else if least' = 1 ∧ most' = some 1 then inner
  else rounds inner least' most' greedy

/-- The number of groups. -/
def groupCount : Expr → Nat
  | group _ inner => inner.groupCount + 1
  | seq first second => first.groupCount + second.groupCount
  | either preferred other => preferred.groupCount + other.groupCount
  | rounds inner _ _ _ => inner.groupCount
  | _ => 0

/-- The memory of a set in a compiled pattern, in bytes: one for its ranges of small code points,
and more for ranges that take several bytes of text. -/
def setWeight (chars : CharSet) : Nat :=
  if chars.isBelow 0x80 then
    if chars.ranges.length ≤ 1 then 32 else 64 + 8 * chars.ranges.length
  else
    let pieces := chars.ranges.map fun (start, stop) =>
      1 + ([0x7F, 0x7FF, 0xFFFF].filter fun bound => start ≤ bound && bound < stop).length
    64 + 60 * pieces.foldl (fun total piece => total + piece) 0

/-- The memory of a compiled pattern, in bytes. -/
def weight : Expr → Nat
  | empty => 32
  | set chars => setWeight chars
  | look _ => 32
  | group _ inner => inner.weight + 64
  | seq first second => first.weight + second.weight
  | either preferred other => preferred.weight + other.weight + 40
  | rounds inner least none _ => inner.weight * max least 1 + 72
  | rounds inner least (some most) _ =>
      inner.weight * max least most + 40 * (most - least) + 32

end Expr

end StoryAtlas.Pattern
