import StoryAtlas.Pattern.Lexical

/-! Character classes in brackets.
A class lists characters, ranges, other classes and nested brackets, and combines such lists by
the operators for what two have in common and for what one has over the other.  The reader keeps
one level for each open bracket, so that a step never looks further back than a level.
-/

namespace StoryAtlas.Pattern

open StoryAtlas.Text

/-- An operator between two lists of a class. -/
inductive ClassOp
  | inter
  | difference
  | symmetricDifference
deriving DecidableEq

def ClassOp.apply : ClassOp → CharSet → CharSet → CharSet
  | inter => .inter
  | difference => .difference
  | symmetricDifference => .symmetricDifference

/-- An open bracket: the list read so far, and the operator in front of it with its left side. -/
structure ClassLevel where
  negated : Bool
  items : CharSet := .empty
  pending : Option (ClassOp × CharSet) := none

namespace ClassLevel

def add (level : ClassLevel) (chars : CharSet) : ClassLevel :=
  { level with items := level.items.union chars }

/-- What the level holds up to here.  The sides of an operator are closed under case first. -/
def value (flags : Flags) (level : ClassLevel) : CharSet :=
  match level.pending with
  | none => level.items
  | some (op, left) => op.apply (flags.fold left) (flags.fold level.items)

/-- Starts the right side of an operator. -/
def operate (flags : Flags) (op : ClassOp) (level : ClassLevel) : ClassLevel :=
  { negated := level.negated, pending := some (op, level.value flags) }

end ClassLevel

/-- Adds the hyphens that come first in a class. -/
def readLeadingHyphens (flags : Flags) (level : ClassLevel)
    : Nat → List Char → ClassLevel × Bool × List Char
  | 0, chars => (level, false, chars)
  | steps + 1, '-' :: rest =>
      let (level, _, rest) :=
        readLeadingHyphens flags (level.add (.singleton '-')) steps (flags.skip rest)
      (level, true, rest)
  | _, chars => (level, false, chars)

/-- Reads what may come first in a class, given what follows its bracket: the sign of negation,
hyphens, and a closing bracket that stands for itself. -/
def openClass (flags : Flags) (chars : List Char)
    : Except Fault (ClassLevel × List Char) := do
  let (negated, chars) :=
    match flags.skip chars with
    | '^' :: rest => (true, flags.skip rest)
    | chars => (false, chars)
  let (level, hyphens, chars) := readLeadingHyphens flags { negated } chars.length chars
  match chars with
  | [] => .error .unclosedClass
  | ']' :: rest =>
      if hyphens then .ok (level, chars)
      else
        let rest := flags.skip rest
        if rest.isEmpty then .error .unclosedClass
        else .ok (level.add (.singleton ']'), rest)
  | chars => .ok (level, chars)

/-- Reads a class named between `[:` and `:]`, if there is one, given what follows its first
bracket. -/
def readAsciiClass? (flags : Flags) (chars : List Char)
    : Except Fault (Option (CharSet × List Char)) :=
  match chars with
  | ':' :: rest =>
      let (negated, rest) :=
        match rest with
        | '^' :: rest => (true, rest)
        | rest => (false, rest)
      let name := rest.takeWhile (· != ':')
      match rest.drop name.length with
      | ':' :: ']' :: after =>
          match asciiClass? (String.ofList name) with
          | none => .ok none
          | some positive => do
              let chars ← flags.close negated positive
              .ok (some (chars, after))
      | _ => .ok none
  | _ => .ok none

/-- Reads a character or escape of a class. -/
def readClassItem (flags : Flags) : List Char → Except Fault (Primitive × List Char)
  | [] => .error .unclosedClass
  | '\\' :: rest => readEscape flags rest
  | c :: rest => .ok (.char c false, rest)

/-- The number of a character of a class.  Without Unicode only bytes have one. -/
def memberCode (flags : Flags) (c : Char) (byte : Bool) : Except Fault Nat :=
  if flags.unicode || byte || c.toNat < 0x80 then .ok c.toNat else .error .notUnicode

/-- The set of a part of a class that is no range. -/
def memberSet (flags : Flags) : Primitive → Except Fault CharSet
  | .char c byte => do
      let code ← memberCode flags c byte
      .ok (.range code code)
  | .set chars => .ok chars
  | .look _ => .error .invalidClass

/-- Reads a range or any other part of a class. -/
def readClassRange (flags : Flags) (chars : List Char)
    : Except Fault (CharSet × List Char) := do
  let (first, rest) ← readClassItem flags chars
  let rest := flags.skip rest
  match rest with
  | [] => .error .unclosedClass
  | '-' :: behind =>
      let ahead := flags.skip behind
      if ahead.head? = some ']' ∨ ahead.head? = some '-' then
        .ok (← memberSet flags first, rest)
      else if ahead.isEmpty then .error .unclosedClass
      else do
        let (last, rest) ← readClassItem flags ahead
        match first, last with
        | .char low lowByte, .char high highByte =>
            if high < low then .error .invalidRange
            else
              .ok (.range (← memberCode flags low lowByte) (← memberCode flags high highByte),
                rest)
        | _, _ => .error .invalidRange
  | rest => .ok (← memberSet flags first, rest)

/-- The operator at the front of the characters. -/
def classOp? : List Char → Option (ClassOp × List Char)
  | '&' :: '&' :: rest => some (.inter, rest)
  | '-' :: '-' :: rest => some (.difference, rest)
  | '~' :: '~' :: rest => some (.symmetricDifference, rest)
  | _ => none

/-- Reads a class to its end, given the innermost level and the levels around it.  The first
argument bounds the number of steps; every step reads a character. -/
def readClassFrom (flags : Flags)
    : Nat → ClassLevel → List ClassLevel → List Char → Except Fault (CharSet × List Char)
  | 0, _, _, _ => .error .unclosedClass
  | steps + 1, level, outer, chars =>
      match flags.skip chars with
      | [] => .error .unclosedClass
      | '[' :: rest => do
          match ← readAsciiClass? flags rest with
          | some (chars, rest) => readClassFrom flags steps (level.add chars) outer rest
          | none => do
              let (inner, rest) ← openClass flags rest
              readClassFrom flags steps inner (level :: outer) rest
      | ']' :: rest => do
          let chars ← flags.close level.negated (level.value flags)
          match outer with
          | [] => .ok (chars, rest)
          | next :: outer => readClassFrom flags steps (next.add chars) outer rest
      | chars =>
          match classOp? chars with
          | some (op, rest) => readClassFrom flags steps (level.operate flags op) outer rest
          | none => do
              let (members, rest) ← readClassRange flags chars
              readClassFrom flags steps (level.add members) outer rest

/-- Reads a class, given what follows its first bracket. -/
def readClass (flags : Flags) (chars : List Char) : Except Fault (CharSet × List Char) := do
  let (level, rest) ← openClass flags chars
  readClassFrom flags (chars.length + 1) level [] rest

end StoryAtlas.Pattern
