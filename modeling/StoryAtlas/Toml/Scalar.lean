import StoryAtlas.Settings.Value
import StoryAtlas.Toml.Fault

/-! Numbers, truth values and times of TOML.
A scalar is a run of characters that is then read as a whole.  Integers keep their value; of
fractional numbers, dates and times only the form is checked.
-/

namespace StoryAtlas.Toml

open StoryAtlas.Settings

/-- Whether a character may stand in a scalar. -/
def isScalarChar (c : Char) : Bool :=
  c.isAlphanum || c == '+' || c == '-' || c == '_' || c == '.' || c == ':'

/-- The digits of a number in which underscores stand only between digits. -/
def digits? (isDigit : Char → Bool) : List Char → Option (List Char)
  | [] => none
  | [c] => if isDigit c then some [c] else none
  | c :: '_' :: rest =>
      if isDigit c then (digits? isDigit rest).map (c :: ·) else none
  | c :: rest => if isDigit c then (digits? isDigit rest).map (c :: ·) else none

/-- The value of digits in a base up to sixteen. -/
def valueOf (base : Nat) (digits : List Char) : Nat :=
  digits.foldl
    (fun value c =>
      value * base
        + (if c.isDigit then c.toNat - '0'.toNat else c.toLower.toNat - 'a'.toNat + 10))
    0

/-- The value of decimal digits without a leading zero. -/
def decimal? (chars : List Char) : Option Nat :=
  match digits? Char.isDigit chars with
  | some ('0' :: _ :: _) => none
  | some digits => some (valueOf 10 digits)
  | none => none

/-- The characters behind a sign, and whether it is a minus. -/
def takeSign : List Char → Bool × List Char
  | '+' :: rest => (false, rest)
  | '-' :: rest => (true, rest)
  | chars => (false, chars)

/-- The value of an integer, in decimal or with the mark of another base. -/
def integer? (chars : List Char) : Option Int :=
  let isHex (c : Char) : Bool :=
    c.isDigit || ('a' ≤ c && c ≤ 'f') || ('A' ≤ c && c ≤ 'F')
  match chars with
  | '0' :: 'x' :: rest => (digits? isHex rest).map fun digits => (valueOf 16 digits : Int)
  | '0' :: 'o' :: rest =>
      (digits? (fun c => '0' ≤ c && c ≤ '7') rest).map fun digits => (valueOf 8 digits : Int)
  | '0' :: 'b' :: rest =>
      (digits? (fun c => c == '0' || c == '1') rest).map fun digits => (valueOf 2 digits : Int)
  | chars =>
      let (negative, magnitude) := takeSign chars
      (decimal? magnitude).map fun value => if negative then -(value : Int) else value

/-- Whether characters are the exponent of a number, behind its letter. -/
def isExponent (chars : List Char) : Bool :=
  (digits? Char.isDigit (takeSign chars).2).isSome

/-- Whether characters are a fractional number. -/
def isFractional (chars : List Char) : Bool :=
  let magnitude := (takeSign chars).2
  let isMark (c : Char) : Bool := c == 'e' || c == 'E'
  let mantissa := magnitude.takeWhile fun c => !isMark c
  let exponent := magnitude.drop mantissa.length
  let whole := mantissa.takeWhile (· != '.')
  let fraction := mantissa.drop whole.length
  magnitude = ['i', 'n', 'f'] || magnitude = ['n', 'a', 'n']
    || ((decimal? whole).isSome
      && (fraction.isEmpty || (digits? Char.isDigit (fraction.drop 1)).isSome)
      && (exponent.isEmpty || isExponent (exponent.drop 1))
      && !(fraction.isEmpty && exponent.isEmpty))

/-- The value of exactly so many decimal digits, and what follows them. -/
def fixed? (count : Nat) (chars : List Char) : Option (Nat × List Char) :=
  let digits := chars.take count
  if digits.length = count ∧ digits.all Char.isDigit then
    some (valueOf 10 digits, chars.drop count)
  else none

/-- What follows the character at the front. -/
def after? (c : Char) : List Char → Option (List Char)
  | [] => none
  | first :: rest => if first = c then some rest else none

/-- The number of days of a month. -/
def daysIn (year month : Nat) : Nat :=
  if month = 2 then
    if year % 4 = 0 ∧ (year % 100 ≠ 0 ∨ year % 400 = 0) then 29 else 28
  else if [4, 6, 9, 11].contains month then 30
  else 31

/-- What follows a date at the front. -/
def afterDate? (chars : List Char) : Option (List Char) := do
  let (year, rest) ← fixed? 4 chars
  let (month, rest) ← fixed? 2 (← after? '-' rest)
  let (day, rest) ← fixed? 2 (← after? '-' rest)
  if 1 ≤ month ∧ month ≤ 12 ∧ 1 ≤ day ∧ day ≤ daysIn year month then some rest else none

/-- What follows the seconds of a time, which may be left out. -/
def afterSeconds? (chars : List Char) : Option (List Char) :=
  match chars with
  | ':' :: rest => do
      let (second, rest) ← fixed? 2 rest
      if 60 < second then none
      else
        match rest with
        | '.' :: rest =>
            let digits := rest.takeWhile Char.isDigit
            if digits.isEmpty then none else some (rest.drop digits.length)
        | rest => some rest
  | chars => some chars

/-- What follows a time at the front. -/
def afterTime? (chars : List Char) : Option (List Char) := do
  let (hour, rest) ← fixed? 2 chars
  let (minute, rest) ← fixed? 2 (← after? ':' rest)
  if 23 < hour ∨ 59 < minute then none else afterSeconds? rest

/-- Whether characters are the offset of a time from the universal one, or nothing. -/
def isOffset (chars : List Char) : Bool :=
  match chars with
  | [] => true
  | ['Z'] => true
  | ['z'] => true
  | c :: rest =>
      (c == '+' || c == '-')
        && (do
          let (hour, rest) ← fixed? 2 rest
          let (minute, rest) ← fixed? 2 (← after? ':' rest)
          some (decide (hour ≤ 23 ∧ minute ≤ 59 ∧ rest = []))).getD false

/-- Whether characters are a date, a time or both. -/
def isMoment (chars : List Char) : Bool :=
  match afterDate? chars with
  | some [] => true
  | some (mark :: rest) =>
      (mark == 'T' || mark == 't' || mark == ' ') && (afterTime? rest).any isOffset
  | none => afterTime? chars = some []

/-- The value of a scalar. -/
def scalar? (chars : List Char) : Option Value :=
  if chars = ['t', 'r', 'u', 'e'] then some (.boolean true)
  else if chars = ['f', 'a', 'l', 's', 'e'] then some (.boolean false)
  else
    match integer? chars with
    | some value => some (.integer value)
    | none => if isFractional chars || isMoment chars then some .other else none

/-- The characters of a scalar, and what follows them.  A date may have its time behind a space. -/
def scalarRun (chars : List Char) : List Char × List Char :=
  let first := chars.takeWhile isScalarChar
  let rest := chars.drop first.length
  match rest with
  | ' ' :: c :: behind =>
      if afterDate? first = some [] ∧ c.isDigit then
        let time := (c :: behind).takeWhile isScalarChar
        (first ++ ' ' :: time, (c :: behind).drop time.length)
      else (first, rest)
  | rest => (first, rest)

/-- Reads a scalar. -/
def readScalar (chars : List Char) : Except Fault (Value × List Char) :=
  let (run, rest) := scalarRun chars
  match scalar? run with
  | some value => .ok (value, rest)
  | none => .error .invalidScalar

end StoryAtlas.Toml
