import StoryAtlas.Pattern.Class

/-! Reading a written pattern into an expression.
The reader goes through the pattern once and keeps a frame for each open group.  Flags set in a
group hold to its end, on all later sides of its choices too.
-/

namespace StoryAtlas.Pattern

open StoryAtlas.Text

/-- A part of a sequence, with the depth to which it is nested. -/
inductive Item
  | expr (value : Expr) (depth : Nat)
  /-- A change of flags, which fits everywhere and cannot be repeated. -/
  | flagChange

namespace Item

def expr? : Item → Option Expr
  | expr value _ => some value
  | flagChange => none

def depth : Item → Nat
  | expr _ depth => depth
  | flagChange => 0

end Item

/-- The choices and the sequence of a group read so far, the latest first. -/
structure Branches where
  choices : List Item := []
  items : List Item := []

namespace Branches

def push (branches : Branches) (item : Item) : Branches :=
  { branches with items := item :: branches.items }

/-- The depth of parts under a common head, which counts only if there are several parts. -/
def joinedDepth : List Item → Nat
  | [] => 0
  | [only] => only.depth
  | items => (items.map Item.depth).foldl max 0 + 1

/-- The sequence read so far as one part. -/
def sequence (branches : Branches) : Item :=
  .expr (.ofSeq (branches.items.reverse.filterMap Item.expr?)) (joinedDepth branches.items)

/-- Ends a side of the choice. -/
def endChoice (branches : Branches) : Branches :=
  { choices := branches.sequence :: branches.choices }

/-- All sides of the choice as one part. -/
def choice (branches : Branches) : Item :=
  let choices := branches.sequence :: branches.choices
  .expr (.ofChoices (choices.reverse.filterMap Item.expr?)) (joinedDepth choices)

end Branches

/-- An open group: its number if it captures, and what was read around it. -/
structure Frame where
  capture : Option Nat
  flags : Flags
  outer : Branches

/-- What the reader knows between two parts. -/
structure ReaderState where
  flags : Flags := {}
  current : Branches := {}
  frames : List Frame := []
  names : List (List Char) := []
  groups : Nat := 0

/-- The letters of flags and their effects. -/
def setFlag? (c : Char) (value : Bool) (flags : Flags) : Option Flags :=
  if c = 'i' then some { flags with caseInsensitive := value }
  else if c = 'm' then some { flags with multiLine := value }
  else if c = 's' then some { flags with dotMatchesLineFeed := value }
  else if c = 'U' then some { flags with swapGreed := value }
  else if c = 'u' then some { flags with unicode := value }
  else if c = 'R' then some { flags with crlf := value }
  else if c = 'x' then some { flags with extended := value }
  else none

/-- Sets the flags of a list of letters, those behind a hyphen off.  No letter may come twice, and
a hyphen must have a letter behind it. -/
def applyFlags (value : Bool) (seen : List Char) (flags : Flags)
    : List Char → Except Fault Flags
  | [] => if seen.head? = some '-' then .error .invalidFlag else .ok flags
  | c :: rest =>
      if seen.contains c then .error .invalidFlag
      else if c = '-' then applyFlags false (c :: seen) flags rest
      else
        match setFlag? c value flags with
        | none => .error .invalidFlag
        | some flags => applyFlags value (c :: seen) flags rest

/-- Whether a character may stand in the name of a group, apart from its start. -/
def isGroupNameChar (c : Char) : Bool :=
  c == '_' || c == '.' || c == '[' || c == ']' || Unicode.isAlphanumeric c

/-- Reads the name of a group up to its closing angle. -/
def readGroupName (names : List (List Char)) (chars : List Char)
    : Except Fault (List Char × List Char) :=
  match splitOnce? ['>'] chars with
  | none => .error .invalidGroupName
  | some (name, rest) =>
      match name with
      | [] => .error .invalidGroupName
      | first :: others =>
          if (first == '_' || Unicode.isAlphabetic first) && others.all isGroupNameChar then
            if names.contains name then .error .duplicateGroupName else .ok (name, rest)
          else .error .invalidGroupName

namespace ReaderState

def push (state : ReaderState) (item : Item) : ReaderState :=
  { state with current := state.current.push item }

/-- Opens a group with flags for its inside. -/
def openGroup (state : ReaderState) (capture : Option Nat) (inside : Flags) : ReaderState :=
  { state with
    flags := inside
    current := {}
    frames := ⟨capture, state.flags, state.current⟩ :: state.frames }

/-- Opens the next group that captures. -/
def openCapture (state : ReaderState) : ReaderState :=
  { state with groups := state.groups + 1 }.openGroup (some (state.groups + 1)) state.flags

/-- Closes the innermost group. -/
def closeGroup (state : ReaderState) : Except Fault ReaderState :=
  match state.frames, state.current.choice with
  | [], _ => .error .unopenedGroup
  | _, .flagChange => .error .unopenedGroup
  | frame :: frames, .expr inner depth =>
      let value :=
        match frame.capture with
        | some index => .group index inner
        | none => inner
      .ok { state with
        flags := frame.flags
        current := frame.outer.push (.expr value (depth + 1))
        frames }

/-- Reads what follows an opening parenthesis: the head of a group, or a change of flags. -/
def readGroup (state : ReaderState) (chars : List Char)
    : Except Fault (ReaderState × List Char) :=
  match state.flags.skip chars with
  | '?' :: '=' :: _ => .error .lookAround
  | '?' :: '!' :: _ => .error .lookAround
  | '?' :: '<' :: '=' :: _ => .error .lookAround
  | '?' :: '<' :: '!' :: _ => .error .lookAround
  | '?' :: 'P' :: '<' :: rest => do
      let (name, rest) ← readGroupName state.names rest
      .ok ({ state with names := name :: state.names }.openCapture, rest)
  | '?' :: '<' :: rest => do
      let (name, rest) ← readGroupName state.names rest
      .ok ({ state with names := name :: state.names }.openCapture, rest)
  | '?' :: rest =>
      let letters := rest.takeWhile fun c => c != ':' && c != ')'
      match rest.drop letters.length with
      | [] => .error .invalidFlag
      | last :: after => do
          let flags ← applyFlags true [] state.flags letters
          if last = ':' then .ok (state.openGroup none flags, after)
          else if letters.isEmpty then .error .missingOperand
          else .ok ({ state with flags }.push .flagChange, after)
  | chars => .ok (state.openCapture, chars)

/-- Repeats the latest part. -/
def repeatLatest (state : ReaderState) (least : Nat) (most : Option Nat) (greedy : Bool)
    : Except Fault ReaderState :=
  match state.current.items with
  | .expr value depth :: items =>
      let rounds := Expr.ofRounds value least most (greedy != state.flags.swapGreed)
      .ok { state with
        current := { state.current with items := .expr rounds (depth + 1) :: items } }
  | _ => .error .missingOperand

/-- Whether a question mark makes the repetition in front of it prefer fewer rounds. -/
def takeLaziness : List Char → Bool × List Char
  | '?' :: rest => (false, rest)
  | chars => (true, chars)

/-- Reads a decimal number with blanks around it, none if there is no digit. -/
def readCount (flags : Flags) (chars : List Char)
    : Except Fault (Option Nat × List Char) :=
  let rec digits : Nat → Option Nat → List Char → Option Nat × List Char
    | 0, value?, chars => (value?, chars)
    | steps + 1, value?, c :: rest =>
        if c.isDigit then
          digits steps (some (value?.getD 0 * 10 + (c.toNat - '0'.toNat))) (flags.skip rest)
        else (value?, c :: rest)
    | _, value?, [] => (value?, [])
  let chars := chars.dropWhile isBlank
  let (value?, rest) := digits chars.length none chars
  let rest := flags.skip (rest.dropWhile isBlank)
  match value? with
  | none => .ok (none, rest)
  | some value => if value < 0x100000000 then .ok (some value, rest) else .error .invalidCount

/-- Reads a count of rounds, given what follows its opening brace. -/
def readBounds (state : ReaderState) (chars : List Char)
    : Except Fault (Nat × Option Nat × List Char) := do
  let flags := state.flags
  let (least?, rest) ← readCount flags (flags.skip chars)
  match rest, least? with
  | '\x7d' :: rest, some least => .ok (least, some least, flags.skip rest)
  | ',' :: rest, some least => do
      match flags.skip rest with
      | '\x7d' :: rest => .ok (least, none, flags.skip rest)
      | rest => do
          match ← readCount flags rest with
          | (some most, '\x7d' :: rest) =>
              if least ≤ most then .ok (least, some most, flags.skip rest)
              else .error .invalidCount
          | _ => .error .invalidCount
  | _, _ => .error .invalidCount

/-- The expression of a part that stands for one character or place. -/
def primitiveExpr (flags : Flags) : Primitive → Except Fault Expr
  | .char c byte =>
      if !flags.unicode && byte && 0x80 ≤ c.toNat then .error .notUnicode
      else if !flags.unicode && 0x80 ≤ c.toNat then .ok (.set (.singleton c))
      else .ok (.set (flags.fold (.singleton c)))
  | .set chars => .ok (.set chars)
  | .look condition => .ok (.look condition)

/-- The characters a dot stands for. -/
def dotSet (flags : Flags) : Except Fault CharSet :=
  if !flags.unicode then .error .notUnicode
  else if flags.dotMatchesLineFeed then .ok (.range 0 maxCode)
  else if flags.crlf then
    .ok ((CharSet.ofRanges [(10, 10), (13, 13)]).complement maxCode)
  else .ok ((CharSet.singleton '\n').complement maxCode)

/-- The place a caret stands for. -/
def startLook (flags : Flags) : Look :=
  if !flags.multiLine then .textStart else if flags.crlf then .crlfLineStart else .lineStart

/-- The place a dollar sign stands for. -/
def endLook (flags : Flags) : Look :=
  if !flags.multiLine then .textEnd else if flags.crlf then .crlfLineEnd else .lineEnd

/-- Reads the part that begins with the character. -/
def readPart (state : ReaderState) (c : Char) (rest : List Char)
    : Except Fault (ReaderState × List Char) :=
  let flags := state.flags
  if c = '(' then state.readGroup rest
  else if c = ')' then do .ok (← state.closeGroup, rest)
  else if c = '|' then .ok ({ state with current := state.current.endChoice }, rest)
  else if c = '[' then do
    let (chars, rest) ← readClass flags rest
    .ok (state.push (.expr (.set chars) 1), rest)
  else if c = '?' ∨ c = '*' ∨ c = '+' then do
    let (greedy, rest) := takeLaziness rest
    let least := if c = '+' then 1 else 0
    let most := if c = '?' then some 1 else none
    .ok (← state.repeatLatest least most greedy, rest)
  else if c = '\x7b' then do
    if state.current.items.head?.bind Item.expr? |>.isNone then .error .missingOperand
    else do
      let (least, most, rest) ← state.readBounds rest
      let (greedy, rest) := takeLaziness rest
      .ok (← state.repeatLatest least most greedy, rest)
  else if c = '.' then do
    .ok (state.push (.expr (.set (← dotSet flags)) 0), rest)
  else if c = '^' then .ok (state.push (.expr (.look (startLook flags)) 0), rest)
  else if c = '$' then .ok (state.push (.expr (.look (endLook flags)) 0), rest)
  else do
    let (primitive, rest) ←
      if c = '\\' then readEscape flags rest else .ok (.char c false, rest)
    .ok (state.push (.expr (← primitiveExpr flags primitive) 0), rest)

/-- Reads all parts.  The first argument bounds the number of steps; every part has a
character. -/
def readParts : Nat → ReaderState → List Char → Except Fault ReaderState
  | 0, state, _ => .ok state
  | steps + 1, state, chars =>
      match state.flags.skip chars with
      | [] => .ok state
      | c :: rest => do
          let (state, rest) ← state.readPart c rest
          readParts steps state rest

end ReaderState

/-- The depth to which a pattern may be nested. -/
def maxDepth : Nat := 250

/-- The memory a compiled pattern may take, in bytes. -/
def maxWeight : Nat := 0xA00000

/-- The expression of a written pattern. -/
def readExpr (pattern : String) : Except Fault Expr := do
  let chars := pattern.toList
  let state ← ReaderState.readParts (chars.length + 1) {} chars
  if !state.frames.isEmpty then .error .unclosedGroup
  else
    match state.current.choice with
    | .flagChange => .ok .empty
    | .expr value depth =>
        if maxDepth < depth then .error .tooDeep
        else if maxWeight < value.weight then .error .tooLarge
        else .ok value

end StoryAtlas.Pattern
