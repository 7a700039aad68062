import StoryAtlas.Markup.Reference
import StoryAtlas.Proofs.Text.Lexing
import StoryAtlas.Text.Blank

/-! Reading of JSON.
A text is read in two steps, from characters to tokens and from tokens to a value, by the rules
of RFC 8259.  The tokens of values can be read in front of any others, so the values of a list
and of a record are read one after the other.
-/

namespace StoryAtlas.Render

open StoryAtlas.Text StoryAtlas.Markup

/-- A JSON value.  Numbers are kept as they are written. -/
inductive Json
  | null
  | boolean (value : Bool)
  | number (chars : List Char)
  | string (text : String)
  | array (items : List Json)
  | object (fields : List (String × Json))

namespace Json

-----------------------------------------------------------------------------------------
-- Strings
-----------------------------------------------------------------------------------------

/-- A part of a string: a character that stands for itself or is escaped by a letter, or a unit of
UTF-16 that is given by its number.
-/
inductive Part
  | char (c : Char)
  | unit (code : Nat)
deriving DecidableEq

/-- The characters that parts of a string make.  A high surrogate and a low one behind it are one
character; alone they are none.
-/
def joinParts : List Part → Option (List Char)
  | [] => some []
  | .char c :: rest => (joinParts rest).map (c :: ·)
  | .unit code :: rest =>
      if 0xD800 ≤ code ∧ code < 0xDC00 then
        match rest with
        | .unit low :: rest =>
            if 0xDC00 ≤ low ∧ low < 0xE000 then
              (charOfNumber? (0x10000 + (code - 0xD800) * 0x400 + (low - 0xDC00))).bind fun c =>
                (joinParts rest).map (c :: ·)
            else none
        | _ => none
      else (charOfNumber? code).bind fun c => (joinParts rest).map (c :: ·)

/-- The character that a letter behind a backslash stands for. -/
def escaped? (c : Char) : Option Char :=
  if c = '"' ∨ c = '\\' ∨ c = '/' then some c
  else if c = 'b' then some '\x08'
  else if c = 'f' then some '\x0C'
  else if c = 'n' then some '\n'
  else if c = 'r' then some '\r'
  else if c = 't' then some '\t'
  else none

-----------------------------------------------------------------------------------------
-- Tokens
-----------------------------------------------------------------------------------------

/-- A token of a JSON text. -/
inductive Token
  | openBrace
  | closeBrace
  | openBracket
  | closeBracket
  | colon
  | comma
  | string (chars : List Char)
  /-- A name of a value or a number. -/
  | word (chars : List Char)
deriving DecidableEq

/-- The tokens that are one character. -/
def Token.mark? (c : Char) : Option Token :=
  if c = '\x7b' then some openBrace
  else if c = '\x7d' then some closeBrace
  else if c = '[' then some openBracket
  else if c = ']' then some closeBracket
  else if c = ':' then some colon
  else if c = ',' then some comma
  else none

/-- Whether a character goes on a name or a number. -/
def isWordChar (c : Char) : Bool :=
  c.isAlphanum || c == '+' || c == '-' || c == '.'

/-- Where a reader of tokens is between two characters, with what it has read of a token. -/
inductive Place
  /-- Outside of strings, behind the given part of a word. -/
  | outside (word : List Char)
  | inString (parts : List Part)
  /-- In a string behind a backslash. -/
  | backslash (parts : List Part)
  /-- In a string behind some of the four digits of a unit, which make the given number. -/
  | inUnit (parts : List Part) (count value : Nat)
deriving DecidableEq

/-- The word that ends here, if there is one. -/
def endWord (word : List Char) : List Token :=
  if word = [] then [] else [.word word]

/-- Reads a character outside of strings that is not of a word. -/
def mark (c : Char) : Option (List Token × Place) :=
  if isMarkupBlank c then some ([], .outside [])
  else if c = '"' then some ([], .inString [])
  else (Token.mark? c).map fun token => ([token], .outside [])

/-- Reads a character.  A string must not hold controls. -/
def step (place : Place) (c : Char) : Option (List Token × Place) :=
  match place with
  | .outside word =>
      if isWordChar c then some ([], .outside (word ++ [c]))
      else (mark c).map fun (ended, next) => (endWord word ++ ended, next)
  | .inString parts =>
      if c = '"' then (joinParts parts).map fun chars => ([.string chars], .outside [])
      else if c = '\\' then some ([], .backslash parts)
      else if c.toNat < 0x20 then none
      else some ([], .inString (parts ++ [.char c]))
  | .backslash parts =>
      if c = 'u' then some ([], .inUnit parts 0 0)
      else (escaped? c).map fun meant => ([], .inString (parts ++ [.char meant]))
  | .inUnit parts count value =>
      (digitValue? 16 c).map fun digit =>
        let value := value * 16 + digit
        if count < 3 then ([], .inUnit parts (count + 1) value)
        else ([], .inString (parts ++ [.unit value]))

/-- The tokens of a text, which must not end in a string. -/
def tokens? (chars : List Char) : Option (List Token) :=
  (lexFrom step (.outside []) chars).bind fun (tokens, place) =>
    match place with
    | .outside word => some (tokens ++ endWord word)
    | _ => none

-----------------------------------------------------------------------------------------
-- Values
-----------------------------------------------------------------------------------------

/-- The characters behind one or more digits. -/
def dropDigits? : List Char → Option (List Char)
  | c :: rest => if c.isDigit then some (rest.dropWhile Char.isDigit) else none
  | [] => none

/-- The characters behind the part of a number in front of its fraction. -/
def dropInteger? : List Char → Option (List Char)
  | '-' :: '0' :: rest => some rest
  | '-' :: rest => dropDigits? rest
  | '0' :: rest => some rest
  | chars => dropDigits? chars

/-- The characters behind a fraction, if there is one. -/
def dropFraction? : List Char → Option (List Char)
  | '.' :: rest => dropDigits? rest
  | chars => some chars

/-- The characters behind an exponent, if there is one. -/
def dropExponent? : List Char → Option (List Char)
  | c :: rest =>
      if c = 'e' ∨ c = 'E' then
        match rest with
        | '+' :: digits => dropDigits? digits
        | '-' :: digits => dropDigits? digits
        | digits => dropDigits? digits
      else some (c :: rest)
  | [] => some []

/-- Whether a word is a number. -/
def isNumber (chars : List Char) : Bool :=
  (((dropInteger? chars).bind dropFraction?).bind dropExponent?) == some []

/-- The value of a word. -/
def wordValue? (chars : List Char) : Option Json :=
  if chars = "null".toList then some .null
  else if chars = "true".toList then some (.boolean true)
  else if chars = "false".toList then some (.boolean false)
  else if isNumber chars then some (.number chars)
  else none

/-- A list or a record that is being read, with its parts so far. -/
inductive Frame
  | array (items : List Json)
  /-- A record whose next value has the given name. -/
  | object (fields : List (String × Json)) (name : String)

mutual

/-- Reads a value inside of the given lists and records, the innermost first, and all that is
behind it.
-/
def readValue (frames : List Frame) : List Token → Option Json
  | .string chars :: rest => readOn frames (.string (String.ofList chars)) rest
  | .word chars :: rest => (wordValue? chars).bind fun value => readOn frames value rest
  | .openBracket :: .closeBracket :: rest => readOn frames (.array []) rest
  | .openBracket :: rest => readValue (.array [] :: frames) rest
  | .openBrace :: .closeBrace :: rest => readOn frames (.object []) rest
  | .openBrace :: .string name :: .colon :: rest =>
      readValue (.object [] (String.ofList name) :: frames) rest
  | _ => none

/-- Reads what is behind a value. -/
def readOn : List Frame → Json → List Token → Option Json
  | [], value, [] => some value
  | .array items :: frames, value, .comma :: rest =>
      readValue (.array (items ++ [value]) :: frames) rest
  | .array items :: frames, value, .closeBracket :: rest =>
      readOn frames (.array (items ++ [value])) rest
  | .object fields name :: frames, value, .comma :: .string next :: .colon :: rest =>
      readValue (.object (fields ++ [(name, value)]) (String.ofList next) :: frames) rest
  | .object fields name :: frames, value, .closeBrace :: rest =>
      readOn frames (.object (fields ++ [(name, value)])) rest
  | _, _, _ => none

end

/-- The value of a text. -/
def parse (chars : List Char) : Option Json :=
  (tokens? chars).bind (readValue [])

-----------------------------------------------------------------------------------------
-- Lists and records
-----------------------------------------------------------------------------------------

/-- Wherever a value may stand, the tokens are read as the given one. -/
def Reads (tokens : List Token) (value : Json) : Prop :=
  ∀ frames rest, readValue frames (tokens ++ rest) = readOn frames value rest

/-- The first value of a list opens it, since no value begins with a bracket that closes. -/
theorem readValue_openBracket {tokens : List Token} {value : Json} (h : Reads tokens value)
    (frames : List Frame) (rest : List Token)
    : readValue frames (.openBracket :: (tokens ++ rest))
      = readValue (.array [] :: frames) (tokens ++ rest) := by
  have halone : readValue [] (tokens ++ []) = some value := by rw [h, readOn]
  cases tokens with
  | nil => simp [readValue] at halone
  | cons token tokens =>
      cases token with
      | closeBracket => simp [readValue] at halone
      | _ => simp only [List.cons_append, readValue]

/-- Behind a value of a list come the others, by induction on these. -/
theorem readOn_items {α : Type} {tokens : α → List Token} {value : α → Json}
    (h : ∀ item, Reads (tokens item) (value item)) (items : List α) (frames : List Frame)
    (done : List Json) (last : Json) (rest : List Token)
    : readOn (.array done :: frames) last
          (items.flatMap (fun item => .comma :: tokens item) ++ .closeBracket :: rest)
      = readOn frames (.array (done ++ last :: items.map value)) rest := by
  induction items generalizing done last with
  | nil => rw [List.flatMap_nil, List.nil_append, readOn, List.map_nil]
  | cons item items ih =>
      rw [List.flatMap_cons, List.append_assoc, List.cons_append, readOn, h item, ih,
        List.append_assoc, List.singleton_append, List.map_cons]

/-- Values with commas between them and brackets around are read as the list of the values. -/
theorem reads_array {α : Type} {tokens : α → List Token} {value : α → Json}
    (h : ∀ item, Reads (tokens item) (value item)) (items : List α)
    : Reads (.openBracket :: ([.comma].intercalate (items.map tokens) ++ [.closeBracket]))
        (.array (items.map value)) := by
  intro frames rest
  cases items with
  | nil => rfl
  | cons item items =>
      rw [List.map_cons, intercalate_cons, List.flatMap_map, List.cons_append, List.append_assoc,
        List.append_assoc, readValue_openBracket (h item), h item]
      exact readOn_items h items frames [] (value item) rest

/-- The tokens of a field with a string. -/
def fieldTokens (field : String × String) : List Token :=
  [.string field.1.toList, .colon, .string field.2.toList]

/-- A field of a record with its value. -/
def fieldValue (field : String × String) : String × Json :=
  (field.1, .string field.2)

/-- Behind a field of a record come the others, by induction on these. -/
theorem readOn_fields (fields : List (String × String)) (frames : List Frame)
    (done : List (String × Json)) (name : String) (last : Json) (rest : List Token)
    : readOn (.object done name :: frames) last
          (fields.flatMap (fun field => .comma :: fieldTokens field) ++ .closeBrace :: rest)
      = readOn frames (.object (done ++ (name, last) :: fields.map fieldValue)) rest := by
  induction fields generalizing done name last with
  | nil => rw [List.flatMap_nil, List.nil_append, readOn, List.map_nil]
  | cons field fields ih =>
      rw [List.flatMap_cons, fieldTokens]
      simp only [List.cons_append, List.nil_append, readOn, readValue, String.ofList_toList]
      rw [ih, List.append_assoc, List.singleton_append, List.map_cons, fieldValue]

/-- Fields with commas between them and braces around are read as the record of the fields. -/
theorem reads_object (fields : List (String × String))
    : Reads (.openBrace :: ([.comma].intercalate (fields.map fieldTokens) ++ [.closeBrace]))
        (.object (fields.map fieldValue)) := by
  intro frames rest
  cases fields with
  | nil => rfl
  | cons field fields =>
      rw [List.map_cons, intercalate_cons, List.flatMap_map, fieldTokens]
      simp only [List.cons_append, List.nil_append, List.append_assoc, readValue,
        String.ofList_toList]
      exact readOn_fields fields frames [] field.1 (.string field.2) rest

/-- A text whose tokens are read as a value is that value. -/
theorem parse_of_reads {chars : List Char} {tokens : List Token} {value : Json}
    (hlex : lexFrom step (.outside []) chars = some (tokens, .outside []))
    (hread : Reads tokens value)
    : parse chars = some value := by
  have htokens : tokens? chars = some tokens := by simp [tokens?, hlex, endWord]
  have hall := hread [] []
  rw [List.append_nil, readOn] at hall
  rw [parse, htokens, Option.bind_some, hall]

end Json

end StoryAtlas.Render
