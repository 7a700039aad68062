import StoryAtlas.Pattern.Expr
import StoryAtlas.Pattern.Fault
import StoryAtlas.Pattern.Property
import StoryAtlas.Text.Blank
import StoryAtlas.Text.Search

/-! The smallest parts of written patterns: flags, blanks, numbers, escapes and classes.
Each reader takes the flags in force and the characters ahead, and gives what it read with the
characters behind it.
-/

namespace StoryAtlas.Pattern

open StoryAtlas.Text

/-- The flags in force at a place of a pattern. -/
structure Flags where
  caseInsensitive : Bool := false
  multiLine : Bool := false
  dotMatchesLineFeed : Bool := false
  swapGreed : Bool := false
  crlf : Bool := false
  extended : Bool := false
  unicode : Bool := true
deriving DecidableEq

/-- Skips the rest of a comment if the scan is in one, and then blanks and comments. -/
def skipBlanks : Bool → List Char → List Char
  | _, [] => []
  | true, c :: rest => skipBlanks (c != '\n') rest
  | false, c :: rest =>
      if isBlank c then skipBlanks false rest
      else if c = '#' then skipBlanks true rest
      else c :: rest

namespace Flags

/-- Skips blanks and comments where they have no meaning. -/
def skip (flags : Flags) (chars : List Char) : List Char :=
  if flags.extended then skipBlanks false chars else chars

/-- The largest number a class of these flags may hold. -/
def bound (flags : Flags) : Nat :=
  if flags.unicode then maxCode else 0xFF

/-- Closes a class under case where case has no meaning. -/
def fold (flags : Flags) (chars : CharSet) : CharSet :=
  if !flags.caseInsensitive then chars
  else if flags.unicode then chars.foldCase
  else chars.foldAsciiCase

/-- A class folded and, if asked for, negated.  Without Unicode it must stay below 128. -/
def close (flags : Flags) (negated : Bool) (chars : CharSet) : Except Fault CharSet :=
  let folded := flags.fold chars
  let closed := if negated then folded.complement flags.bound else folded
  if flags.unicode || closed.isBelow 0x80 then .ok closed else .error .notUnicode

end Flags

/-- A part of a pattern that stands for one character or one place. -/
inductive Primitive
  /-- A character; `byte` if it was given by two hexadecimal digits. -/
  | char (c : Char) (byte : Bool)
  | set (chars : CharSet)
  | look (condition : Look)

/-- The value of a hexadecimal digit. -/
def hexDigit? (c : Char) : Option Nat :=
  if '0' ≤ c ∧ c ≤ '9' then some (c.toNat - '0'.toNat)
  else if 'a' ≤ c ∧ c ≤ 'f' then some (c.toNat - 'a'.toNat + 10)
  else if 'A' ≤ c ∧ c ≤ 'F' then some (c.toNat - 'A'.toNat + 10)
  else none

/-- The character with a number that is a scalar value. -/
def charOfCode (code : Nat) : Except Fault Char :=
  if h : code.isValidChar then .ok (Char.ofNatAux code h) else .error .invalidNumber

/-- Reads a number of so many hexadecimal digits, after a value already read. -/
def readHexDigits (flags : Flags) : Nat → Nat → List Char → Except Fault (Nat × List Char)
  | 0, value, chars => .ok (value, chars)
  | _ + 1, _, [] => .error .invalidNumber
  | digits + 1, value, c :: rest =>
      match hexDigit? c with
      | none => .error .invalidNumber
      | some digit => readHexDigits flags digits (value * 16 + digit) (flags.skip rest)

/-- Reads a hexadecimal number up to a closing brace.  The first argument bounds the number of
steps. -/
def readBracedHex (flags : Flags)
    : Nat → Option Nat → List Char → Except Fault (Nat × List Char)
  | 0, _, _ => .error .invalidNumber
  | _ + 1, _, [] => .error .invalidNumber
  | steps + 1, value?, c :: rest =>
      if c = '\x7d' then
        match value? with
        | none => .error .invalidNumber
        | some value => .ok (value, flags.skip rest)
      else
        match hexDigit? c with
        | none => .error .invalidNumber
        | some digit =>
            readBracedHex flags steps (some (value?.getD 0 * 16 + digit)) (flags.skip rest)

/-- Reads a character by its number, given the number of digits and what follows the letter. -/
def readCharNumber (flags : Flags) (digits : Nat) (chars : List Char)
    : Except Fault (Primitive × List Char) :=
  match flags.skip chars with
  | '\x7b' :: rest => do
      let inner := flags.skip rest
      let (code, rest) ← readBracedHex flags (inner.length + 1) none inner
      let c ← charOfCode code
      .ok (.char c false, rest)
  | chars => do
      let (code, rest) ← readHexDigits flags digits 0 chars
      let c ← charOfCode code
      .ok (.char c (digits == 2), rest)

/-- Collects the characters up to a closing brace. -/
def readBracedName (flags : Flags) : Nat → List Char → Except Fault (List Char × List Char)
  | 0, _ => .error .unknownProperty
  | _ + 1, [] => .error .unknownProperty
  | steps + 1, c :: rest =>
      if c = '\x7d' then .ok ([], rest)
      else do
        let (name, rest) ← readBracedName flags steps (flags.skip rest)
        .ok (c :: name, rest)

/-- The set of a property written in braces, and whether its value is one to be avoided. -/
def propertySet? (name : List Char) : Option (CharSet × Bool) :=
  match splitOnce? ['!', '='] name with
  | some (name, value) => (propertyByValue? name value).map (·, true)
  | none =>
      match (splitOnce? [':'] name).or (splitOnce? ['='] name) with
      | some (name, value) => (propertyByValue? name value).map (·, false)
      | none => (propertyByName? name).map (·, false)

/-- Reads a property, given what follows its letter. -/
def readProperty (flags : Flags) (negated : Bool) (chars : List Char)
    : Except Fault (Primitive × List Char) := do
  let (name, rest) ←
    match flags.skip chars with
    | [] => .error .unknownProperty
    | '\x7b' :: rest =>
        let inner := flags.skip rest
        readBracedName flags (inner.length + 1) inner
    | c :: rest => .ok ([c], flags.skip rest)
  if !flags.unicode then .error .notUnicode
  else
    match propertySet? name with
    | none => .error .unknownProperty
    | some (chars, avoided) => do
        let closed ← flags.close (negated != avoided) chars
        .ok (.set closed, rest)

/-- The set of a one-letter class. -/
def letterClass (flags : Flags) (c : Char) : Except Fault CharSet :=
  let positive : CharSet :=
    if c.toLower = 'd' then
      if flags.unicode then digitSet else .range 0x30 0x39
    else if c.toLower = 's' then
      if flags.unicode then blankSet else .ofRanges [(9, 13), (0x20, 0x20)]
    else if flags.unicode then wordSet
    else asciiWordSet
  if c.isUpper then
    if flags.unicode then .ok (positive.complement maxCode) else .error .notUnicode
  else .ok positive

/-- The punctuation that has a meaning somewhere in a pattern. -/
def isMetaChar (c : Char) : Bool :=
  ['\\', '.', '+', '*', '?', '(', ')', '|', '[', ']', '\x7b', '\x7d', '^', '$', '#', '&', '-',
    '~'].contains c

/-- The characters a backslash may stand before without changing them. -/
def isEscapable (c : Char) : Bool :=
  isMetaChar c || (c.toNat < 0x80 && !c.isAlphanum && c != '<' && c != '>')

/-- Reads the word in braces that may follow a word boundary.  There is none when what follows
the brace cannot begin one. -/
def readBoundaryName (flags : Flags) (chars : List Char)
    : Except Fault (Option (List Char × List Char)) :=
  let isNameChar (c : Char) : Bool := c.isAlpha || c == '-'
  let inner := flags.skip chars
  match inner with
  | [] => .error .invalidEscape
  | c :: _ =>
      if !isNameChar c then .ok none
      else
        let rec collect : Nat → List Char → Except Fault (Option (List Char × List Char))
          | 0, _ => .error .invalidEscape
          | _ + 1, [] => .error .invalidEscape
          | steps + 1, c :: rest =>
              if isNameChar c then do
                match ← collect steps (flags.skip rest) with
                | some (name, rest) => .ok (some (c :: name, rest))
                | none => .ok none
              else if c = '\x7d' then .ok (some ([], rest))
              else .error .invalidEscape
        collect (inner.length + 1) inner

/-- Reads a word boundary, given what follows its letter. -/
def readBoundary (flags : Flags) (chars : List Char) : Except Fault (Primitive × List Char) := do
  let ascii := !flags.unicode
  match chars with
  | '\x7b' :: rest =>
      match ← readBoundaryName flags rest with
      | none => .ok (.look (.wordBoundary ascii), chars)
      | some (name, rest) =>
          if name = "start".toList then .ok (.look (.wordStart ascii), rest)
          else if name = "end".toList then .ok (.look (.wordEnd ascii), rest)
          else if name = "start-half".toList then .ok (.look (.wordStartHalf ascii), rest)
          else if name = "end-half".toList then .ok (.look (.wordEndHalf ascii), rest)
          else .error .invalidEscape
  | _ => .ok (.look (.wordBoundary ascii), chars)

/-- Reads an escape, given what follows its backslash. -/
def readEscape (flags : Flags) : List Char → Except Fault (Primitive × List Char)
  | [] => .error .invalidEscape
  | c :: rest =>
      let ascii := !flags.unicode
      if c.isDigit then .error .backReference
      else if c = 'x' then readCharNumber flags 2 rest
      else if c = 'u' then readCharNumber flags 4 rest
      else if c = 'U' then readCharNumber flags 8 rest
      else if c = 'p' ∨ c = 'P' then readProperty flags (c == 'P') rest
      else if ['d', 's', 'w', 'D', 'S', 'W'].contains c then do
        .ok (.set (← letterClass flags c), rest)
      else if isEscapable c then .ok (.char c false, rest)
      else if c = 'a' then .ok (.char '\x07' false, rest)
      else if c = 'f' then .ok (.char '\x0C' false, rest)
      else if c = 't' then .ok (.char '\t' false, rest)
      else if c = 'n' then .ok (.char '\n' false, rest)
      else if c = 'r' then .ok (.char '\r' false, rest)
      else if c = 'v' then .ok (.char '\x0B' false, rest)
      else if c = 'A' then .ok (.look .textStart, rest)
      else if c = 'z' then .ok (.look .textEnd, rest)
      else if c = 'b' then readBoundary flags rest
      else if c = 'B' then .ok (.look (.notWordBoundary ascii), rest)
      else if c = '<' then .ok (.look (.wordStart ascii), rest)
      else if c = '>' then .ok (.look (.wordEnd ascii), rest)
      else .error .invalidEscape

end StoryAtlas.Pattern
