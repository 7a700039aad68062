import StoryAtlas.Markup.Fault
import StoryAtlas.Text.Blank
import StoryAtlas.Text.Bytes

/-! References to characters and entities.
A reference in text is resolved on its own: predefined and declared names come first, then
character numbers.  The references of a value are expanded together, where a name with a number
sign is always a number; the first reference without a meaning is the fault of the value.
-/

namespace StoryAtlas.Markup

open StoryAtlas.Text

/-- Replacement texts by entity name. -/
abbrev Entities := List (String × String)

/-- The five entities that need no declaration. -/
def predefinedEntity? (name : String) : Option String :=
  if name = "lt" then some "<"
  else if name = "gt" then some ">"
  else if name = "amp" then some "&"
  else if name = "apos" then some "'"
  else if name = "quot" then some "\""
  else none

/-- The replacement text of a name: a predefined one wins over a declared one. -/
def lookupEntity? (entities : Entities) (name : String) : Option String :=
  match predefinedEntity? name with
  | some text => some text
  | none => entities.lookup name

/-- The value of a digit in a base up to sixteen. -/
def digitValue? (base : Nat) (c : Char) : Option Nat :=
  let value :=
    if '0' ≤ c ∧ c ≤ '9' then c.toNat - '0'.toNat
    else if 'a' ≤ c ∧ c ≤ 'f' then c.toNat - 'a'.toNat + 10
    else if 'A' ≤ c ∧ c ≤ 'F' then c.toNat - 'A'.toNat + 10
    else 16
  if value < base then some value else none

/-- Reads digits behind a value already read; numbers have at most 32 bits. -/
def readDigits (base : Nat) (value : Nat) : List Char → Except CharacterFault Nat
  | [] => .ok value
  | c :: rest =>
      match digitValue? base c with
      | none => .error .invalidDigit
      | some digit =>
          let next := value * base + digit
          if next < 0x100000000 then readDigits base next rest else .error .tooLarge

/-- The number written in a character reference, without a sign. -/
def readNumber (base : Nat) : List Char → Except CharacterFault Nat
  | [] => .error .noDigits
  | c :: rest => if c = '+' ∨ c = '-' then .error .sign else readDigits base 0 (c :: rest)

/-- The base and the digits of a character reference, given what follows its number sign. -/
def numberOf : List Char → Nat × List Char
  | 'x' :: digits => (16, digits)
  | digits => (10, digits)

/-- The character with a number that is a Unicode scalar value. -/
def charOfNumber? (code : Nat) : Option Char :=
  if h : code.isValidChar then some (Char.ofNatAux code h) else none

/-- The character of a character reference in a value. -/
def readCharacter (number : List Char) : Except CharacterFault Char :=
  let (base, digits) := numberOf number
  match readNumber base digits with
  | .error fault => .error fault
  | .ok code =>
      if code = 0 then .error .null
      else
        match charOfNumber? code with
        | some c => .ok c
        | none => .error (.notACharacter code)

/-- The number of a character reference in text, where a plus sign may come first. -/
def readTextNumber? (base : Nat) (digits : List Char) : Option Nat :=
  let digits :=
    match digits with
    | '+' :: c :: rest => c :: rest
    | digits => digits
  match digits with
  | [] => none
  | digits => (readDigits base 0 digits).toOption

/-- The text a reference in element text stands for. -/
def resolveReference? (entities : Entities) (name : List Char) : Option (List Char) :=
  match lookupEntity? entities (String.ofList name) with
  | some text => some text.toList
  | none =>
      match name with
      | '#' :: number =>
          let (base, digits) := numberOf number
          (readTextNumber? base digits).bind fun code => (charOfNumber? code).map ([·])
      | _ => none

/-- Whether a character goes on the name of a reference in a value. -/
def isNameChar (c : Char) : Bool :=
  c != '&' && c != ';'

/-- Expands the references of a value from a byte position on, given its whole length. -/
def expandFrom (lookup : String → Option String) (total position : Nat) (chars : List Char)
    : Except ExpansionFault (List Char) :=
  match chars with
  | [] => .ok []
  | c :: chars =>
      if c = '&' then
        let name := chars.takeWhile isNameChar
        match _hafter : chars.dropWhile isNameChar with
        | ';' :: rest =>
            let after := position + byteLength name + 2
            let meaning : Except ExpansionFault (List Char) :=
              match name with
              | '#' :: number =>
                  match readCharacter number with
                  | .ok c => .ok [c]
                  | .error cause => .error (.character cause)
              | _ =>
                  match lookup (String.ofList name) with
                  | some text => .ok text.toList
                  | none =>
                      .error (.unknownEntity (position + 1) (position + 1 + byteLength name)
                        (String.ofList name))
            match meaning with
            | .error fault => .error fault
            | .ok text => (expandFrom lookup total after rest).map (text ++ ·)
        | _ => .error (.unterminated position total)
      else (expandFrom lookup total (position + c.utf8Size) chars).map (c :: ·)
termination_by chars.length
decreasing_by
  · have hle := (List.dropWhile_suffix (l := chars) isNameChar).length_le
    rw [_hafter] at hle
    simp only [List.length_cons] at hle ⊢
    omega
  · simp

/-- Expands all references of a value. -/
def expand (lookup : String → Option String) (value : List Char)
    : Except ExpansionFault (List Char) :=
  expandFrom lookup (byteLength value) 0 value

/-- Turns line breaks and tabs of an attribute value into spaces, a return with a line feed
behind it into one. -/
def normalizeValue : List Char → List Char
  | [] => []
  | '\r' :: '\n' :: rest => ' ' :: normalizeValue rest
  | c :: rest => (if c = '\t' ∨ c = '\r' ∨ c = '\n' then ' ' else c) :: normalizeValue rest

/-- Turns every line break of text into a line feed. -/
def normalizeLineBreaks : List Char → List Char
  | [] => []
  | '\r' :: '\n' :: rest => '\n' :: normalizeLineBreaks rest
  | c :: rest => (if c = '\r' then '\n' else c) :: normalizeLineBreaks rest

end StoryAtlas.Markup
