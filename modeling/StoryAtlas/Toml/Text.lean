import StoryAtlas.Toml.Fault

/-! Blanks, comments and strings of TOML.
A string has one of four forms, by its quotes and their number; a form with three quotes may
run over lines.  Control characters other than tabs stand in none of them.
-/

namespace StoryAtlas.Toml

/-- A space or a tab. -/
def isSpace (c : Char) : Bool :=
  c == ' ' || c == '\t'

/-- A character that text may not hold as it is. -/
def isControl (c : Char) : Bool :=
  (c.toNat < 0x20 && c != '\t') || c.toNat == 0x7F

/-- Skips blanks, line breaks and comments, or the rest of a comment first if the scan is in
one. -/
def skipTrivia : Bool → List Char → Except Fault (List Char)
  | _, [] => .ok []
  | inComment, '\r' :: '\n' :: rest => skipTrivia (inComment && false) rest
  | true, c :: rest =>
      if c = '\n' then skipTrivia false rest
      else if isControl c then .error .controlCharacter
      else skipTrivia true rest
  | false, c :: rest =>
      if isSpace c ∨ c = '\n' then skipTrivia false rest
      else if c = '#' then skipTrivia true rest
      else .ok (c :: rest)

/-- Skips to the start of the next line, over blanks and a comment. -/
def skipLineEnd : Bool → List Char → Except Fault (List Char)
  | _, [] => .ok []
  | _, '\r' :: '\n' :: rest => .ok rest
  | _, '\n' :: rest => .ok rest
  | true, c :: rest => if isControl c then .error .controlCharacter else skipLineEnd true rest
  | false, c :: rest =>
      if isSpace c then skipLineEnd false rest
      else if c = '#' then skipLineEnd true rest
      else .error .unexpectedCharacter

/-- The value of hexadecimal digits, if there are so many. -/
def hexValue? (count : Nat) (chars : List Char) : Option (Nat × List Char) :=
  let digit? (c : Char) : Option Nat :=
    if '0' ≤ c ∧ c ≤ '9' then some (c.toNat - '0'.toNat)
    else if 'a' ≤ c ∧ c ≤ 'f' then some (c.toNat - 'a'.toNat + 10)
    else if 'A' ≤ c ∧ c ≤ 'F' then some (c.toNat - 'A'.toNat + 10)
    else none
  let digits := (chars.take count).map digit?
  if digits.length = count ∧ digits.all Option.isSome then
    some ((digits.filterMap id).foldl (fun value digit => value * 16 + digit) 0,
      chars.drop count)
  else none

/-- The character with the number that some hexadecimal digits write. -/
def readNumbered (count : Nat) (chars : List Char) : Except Fault (Char × List Char) :=
  match hexValue? count chars with
  | none => .error .invalidEscape
  | some (code, rest) =>
      if h : code.isValidChar then .ok (Char.ofNatAux code h, rest) else .error .invalidEscape

/-- The character an escape stands for, given what follows its backslash. -/
def readEscape : List Char → Except Fault (Char × List Char)
  | 'b' :: rest => .ok ('\x08', rest)
  | 't' :: rest => .ok ('\t', rest)
  | 'n' :: rest => .ok ('\n', rest)
  | 'f' :: rest => .ok ('\x0C', rest)
  | 'r' :: rest => .ok ('\r', rest)
  | 'e' :: rest => .ok ('\x1B', rest)
  | '"' :: rest => .ok ('"', rest)
  | '\\' :: rest => .ok ('\\', rest)
  | 'x' :: rest => readNumbered 2 rest
  | 'u' :: rest => readNumbered 4 rest
  | 'U' :: rest => readNumbered 8 rest
  | _ => .error .invalidEscape

/-- Adds a character in front of what a reader read. -/
def consRead (c : Char) (read : List Char × List Char) : List Char × List Char :=
  (c :: read.1, read.2)

/-- Reads a string of one line to its closing quote.  The first argument bounds the number of
steps. -/
def readLine (quote : Char) : Nat → List Char → Except Fault (List Char × List Char)
  | 0, _ => .error .unclosedString
  | _ + 1, [] => .error .unclosedString
  | steps + 1, c :: rest =>
      if c = quote then .ok ([], rest)
      else if c = '\\' ∧ quote = '"' then
        match readEscape rest with
        | .error fault => .error fault
        | .ok (c, rest) => (readLine quote steps rest).map (consRead c)
      else if isControl c then .error .controlCharacter
      else (readLine quote steps rest).map (consRead c)

/-- Skips blanks and line breaks. -/
def skipFolded : List Char → List Char
  | [] => []
  | '\r' :: '\n' :: rest => skipFolded rest
  | c :: rest => if isSpace c ∨ c = '\n' then skipFolded rest else c :: rest

/-- What follows a backslash that ends its line, from the next character that is no blank on. -/
def foldedLine? (chars : List Char) : Option (List Char) :=
  match chars.dropWhile isSpace with
  | '\n' :: rest => some (skipFolded rest)
  | '\r' :: '\n' :: rest => some (skipFolded rest)
  | _ => none

/-- Reads a string of several lines to its three closing quotes, in front of which one or two more
may stand.  The first argument bounds the number of steps. -/
def readLines (quote : Char) : Nat → List Char → Except Fault (List Char × List Char)
  | 0, _ => .error .unclosedString
  | _ + 1, [] => .error .unclosedString
  | steps + 1, c :: rest =>
      if c = quote then
        let quotes := (c :: rest).takeWhile (· == quote)
        if quotes.length < 3 then (readLines quote steps rest).map (consRead c)
        else
          let inner := min (quotes.length - 3) 2
          .ok (List.replicate inner quote, (c :: rest).drop (inner + 3))
      else if c = '\\' ∧ quote = '"' then
        match foldedLine? rest with
        | some rest => readLines quote steps rest
        | none =>
            match readEscape rest with
            | .error fault => .error fault
            | .ok (c, rest) => (readLines quote steps rest).map (consRead c)
      else if c = '\n' then (readLines quote steps rest).map (consRead c)
      else if c = '\r' ∧ rest.head? = some '\n' then readLines quote steps rest
      else if isControl c then .error .controlCharacter
      else (readLines quote steps rest).map (consRead c)

/-- A line break right behind the opening quotes is no part of a string of several lines. -/
def dropFirstBreak : List Char → List Char
  | '\n' :: rest => rest
  | '\r' :: '\n' :: rest => rest
  | chars => chars

/-- Reads a string of any form, given what follows its first quote. -/
def readString (quote : Char) (chars : List Char) : Except Fault (String × List Char) :=
  let read :=
    match chars with
    | first :: second :: rest =>
        if first = quote ∧ second = quote then
          let inner := dropFirstBreak rest
          readLines quote (inner.length + 1) inner
        else readLine quote (chars.length + 1) chars
    | _ => readLine quote (chars.length + 1) chars
  read.map fun (text, rest) => (String.ofList text, rest)

end StoryAtlas.Toml
