import StoryAtlas.Pattern.Reader
import StoryAtlas.Pattern.Search

/-! Patterns ready for use.
A pattern is compiled once and then finds, in a text, its matches and the pieces of the text that
a group of it covers.
-/

namespace StoryAtlas

/-- A pattern with its groups counted, the whole match being a group too. -/
structure Pattern where
  groupCount : Nat
  program : Pattern.Program

namespace Pattern

/-- The pattern of an expression. -/
def ofExpr (expr : Expr) : Pattern :=
  ⟨expr.groupCount + 1, .ofExpr expr⟩

/-- Compiles a written pattern. -/
def compile (source : String) : Except Fault Pattern :=
  (readExpr source).map ofExpr

/-- All matches in a text, from left to right. -/
def allMatches (pattern : Pattern) (chars : List Char) : List Match :=
  let bound := pattern.program.wayBound chars.length
  pattern.program.matchesFrom bound (chars.length + 1) (.start chars) none

/-- The pieces of a text that a group covers, one for each match in which it takes part. -/
def groupPieces (pattern : Pattern) (index : Nat) (chars : List Char) : List (List Char) :=
  (pattern.allMatches chars).filterMap fun found => found.group? index

end Pattern

end StoryAtlas
