import StoryAtlas.Pattern.Expr

/-! Programs that match expressions.
An instruction names the instructions that may follow it, and a choice prefers its first way.
Code is written from the end of an expression to its start, so that an instruction is known when
others refer to it; a loop takes its place before its body is written.
-/

namespace StoryAtlas.Pattern

/-- One step of a match. -/
inductive Instr
  | consume (chars : CharSet) (next : Nat)
  | choose (preferred other : Nat)
  /-- Notes the place as the start or the end of a group. -/
  | mark (slot next : Nat)
  | check (condition : Look) (next : Nat)
  | accept
deriving DecidableEq

/-- Instructions, by their numbers. -/
abbrev Code := Array Instr

/-- Writes code for an expression in front of the instruction with a number, and gives the number
of its first instruction. -/
abbrev Emitter := Nat → Code → Code × Nat

namespace Emitter

/-- The choice between another round and what follows. -/
def branch (greedy : Bool) (body next : Nat) : Instr :=
  if greedy then .choose body next else .choose next body

/-- Writes a body several times in a row. -/
def copies (body : Emitter) : Nat → Emitter
  | 0, next, code => (code, next)
  | count + 1, next, code =>
      let (code, entry) := body next code
      copies body count entry code

/-- Writes a body up to so many times, each followed by the next or by what comes after all. -/
def options (body : Emitter) (greedy : Bool) (after : Nat) : Nat → Emitter
  | 0, next, code => (code, next)
  | count + 1, next, code =>
      let (code, entry) := body next code
      options body greedy after count code.size (code.push (branch greedy entry after))

/-- Writes a loop whose body is entered first. -/
def plus (body : Emitter) (greedy : Bool) : Emitter := fun next code =>
  let loop := code.size
  let (code, entry) := body loop (code.push .accept)
  (code.setIfInBounds loop (branch greedy entry next), entry)

/-- Writes a loop that may be passed by.  A body that fits the empty text gets a choice of its own
in front of the loop. -/
def star (body : Emitter) (greedy nullable : Bool) : Emitter := fun next code =>
  if nullable then
    let (code, entry) := plus body greedy next code
    (code.push (branch greedy entry next), code.size)
  else
    let loop := code.size
    ((plus body greedy next code).1, loop)

end Emitter

/-- Writes the code of an expression. -/
def Expr.emit : Expr → Emitter
  | empty, next, code => (code, next)
  | set chars, next, code => (code.push (.consume chars next), code.size)
  | look condition, next, code => (code.push (.check condition next), code.size)
  | group index inner, next, code =>
      let (code, entry) := inner.emit code.size (code.push (.mark (2 * index + 1) next))
      (code.push (.mark (2 * index) entry), code.size)
  | seq first second, next, code =>
      let (code, entry) := second.emit next code
      first.emit entry code
  | either preferred other, next, code =>
      let (code, second) := other.emit next code
      let (code, first) := preferred.emit next code
      (code.push (.choose first second), code.size)
  | rounds inner 0 none greedy, next, code =>
      let nullable := (inner.minLength?.getD 0) == 0
      Emitter.star inner.emit greedy nullable next code
  | rounds inner (least + 1) none greedy, next, code =>
      let (code, entry) := Emitter.plus inner.emit greedy next code
      Emitter.copies inner.emit least entry code
  | rounds inner least (some most) greedy, next, code =>
      let (code, entry) := Emitter.options inner.emit greedy next (most - least) next code
      Emitter.copies inner.emit least entry code

/-- Code with the number of its first instruction. -/
structure Program where
  code : Code
  start : Nat

/-- The program of an expression; its first instruction by number is the accepting one. -/
def Program.ofExpr (expr : Expr) : Program :=
  let (code, start) := expr.emit 0 #[.accept]
  ⟨code, start⟩

end StoryAtlas.Pattern
