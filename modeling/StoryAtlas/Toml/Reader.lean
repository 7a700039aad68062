import StoryAtlas.Toml.Scalar
import StoryAtlas.Toml.Table
import StoryAtlas.Toml.Text

/-! Reading TOML documents.
A document is a list of lines with a key and a value or with a header, and a header says to which
table the lines below it belong.  Lists and tables in values may run over lines and end in a
comma.
-/

namespace StoryAtlas.Toml

open StoryAtlas.Settings

/-- Whether a character may stand in a key without quotes. -/
def isKeyChar (c : Char) : Bool :=
  c.isAlphanum || c == '_' || c == '-'

/-- Reads one part of a key. -/
def readKeyPart (chars : List Char) : Except Fault (String × List Char) :=
  match chars with
  | [] => .error .invalidKey
  | c :: rest =>
      if c = '"' ∨ c = '\'' then
        (readLine c (rest.length + 1) rest).map fun (key, rest) => (String.ofList key, rest)
      else
        let key := chars.takeWhile isKeyChar
        if key.isEmpty then .error .invalidKey
        else .ok (String.ofList key, chars.drop key.length)

/-- Reads a key: the parts between its dots but for the last, and the last.  The first argument
bounds the number of parts. -/
def readKey : Nat → List Char → Except Fault (List String × String × List Char)
  | 0, _ => .error .invalidKey
  | steps + 1, chars => do
      let (part, rest) ← readKeyPart (chars.dropWhile isSpace)
      match rest.dropWhile isSpace with
      | '.' :: rest => do
          let (path, key, rest) ← readKey steps rest
          .ok (part :: path, key, rest)
      | rest => .ok ([], part, rest)

mutual

/-- Reads a value.  The first argument bounds the number of steps here and below. -/
def readValue : Nat → List Char → Except Fault (Value × List Char)
  | 0, _ => .error .unexpectedEnd
  | _ + 1, [] => .error .unexpectedEnd
  | steps + 1, c :: rest =>
      if c = '"' ∨ c = '\'' then
        (readString c rest).map fun (text, rest) => (.text text, rest)
      else if c = '[' then
        (readItems steps rest).map fun (items, rest) => (.list items, rest)
      else if c = '\x7b' then
        (readEntries steps [] rest).map fun (entries, rest) =>
          (.table (valuesOfEntries entries), rest)
      else readScalar (c :: rest)

/-- Reads the items of a list up to its closing bracket. -/
def readItems : Nat → List Char → Except Fault (List Value × List Char)
  | 0, _ => .error .unexpectedEnd
  | steps + 1, chars => do
      match ← skipTrivia false chars with
      | ']' :: rest => .ok ([], rest)
      | chars => do
          let (item, rest) ← readValue steps chars
          match ← skipTrivia false rest with
          | ',' :: rest => do
              let (items, rest) ← readItems steps rest
              .ok (item :: items, rest)
          | ']' :: rest => .ok ([item], rest)
          | _ => .error .unexpectedCharacter

/-- Reads the entries of a table up to its closing brace, after those already read. -/
def readEntries : Nat → Entries → List Char → Except Fault (Entries × List Char)
  | 0, _, _ => .error .unexpectedEnd
  | steps + 1, entries, chars => do
      match ← skipTrivia false chars with
      | '\x7d' :: rest => .ok (entries, rest)
      | chars => do
          let (path, key, rest) ← readKey (chars.length + 1) chars
          match rest with
          | '=' :: rest => do
              let (value, rest) ← readValue steps (rest.dropWhile isSpace)
              let entries ← entries.addValue path key value .header
              match ← skipTrivia false rest with
              | ',' :: rest => readEntries steps entries rest
              | '\x7d' :: rest => .ok (entries, rest)
              | _ => .error .unexpectedCharacter
          | _ => .error .invalidKey

end

/-- The document read so far, and the path of the table to which the next lines belong. -/
structure Progress where
  root : Entries := []
  current : List String := []

/-- Reads a header, given what follows its first bracket. -/
def readHeader (progress : Progress) (chars : List Char)
    : Except Fault (Progress × List Char) :=
  match chars with
  | '[' :: rest => do
      match ← readKey (rest.length + 1) rest with
      | (path, key, ']' :: ']' :: rest) =>
          .ok (⟨← progress.root.openElement path key, path ++ [key]⟩, rest)
      | _ => .error .invalidKey
  | chars => do
      match ← readKey (chars.length + 1) chars with
      | (path, key, ']' :: rest) =>
          .ok (⟨← progress.root.openTable path key, path ++ [key]⟩, rest)
      | _ => .error .invalidKey

/-- Reads a line with a key and a value. -/
def readPair (progress : Progress) (chars : List Char)
    : Except Fault (Progress × List Char) := do
  match ← readKey (chars.length + 1) chars with
  | (path, key, '=' :: rest) => do
      let rest := rest.dropWhile isSpace
      let (value, rest) ← readValue (rest.length + 1) rest
      let root ←
        Entries.updateAt false (fun origin entries => entries.addValue path key value origin)
          progress.current .header progress.root
      .ok ({ progress with root }, rest)
  | _ => .error .invalidKey

/-- Reads the lines of a document.  The first argument bounds their number. -/
def readLinesFrom : Nat → Progress → List Char → Except Fault Progress
  | 0, progress, _ => .ok progress
  | steps + 1, progress, chars => do
      match ← skipTrivia false chars with
      | [] => .ok progress
      | '[' :: rest => do
          let (progress, rest) ← readHeader progress rest
          readLinesFrom steps progress (← skipLineEnd false rest)
      | chars => do
          let (progress, rest) ← readPair progress chars
          readLinesFrom steps progress (← skipLineEnd false rest)

/-- The table a document describes.  A byte order mark may come first. -/
def read (source : String) : Except Fault Value :=
  let chars :=
    match source.toList with
    | '\uFEFF' :: rest => rest
    | chars => chars
  (readLinesFrom (chars.length + 1) {} chars).map fun progress =>
    .table (valuesOfEntries progress.root)

end StoryAtlas.Toml
