import Mathlib.Data.Set.List
import StoryAtlas.Proofs.Document.Growth
import StoryAtlas.Proofs.Markup.Reading

/-! Written documents.
A manuscript is a tree of elements with every choice that is made in writing it: the quotes
around values, the form of each character, and where comments and instructions stand.  It has a
text and a meaning, the tree that is left when these choices are forgotten.
-/

namespace StoryAtlas.Markup

open StoryAtlas.Text

namespace Manuscript

-----------------------------------------------------------------------------------------
-- Names
-----------------------------------------------------------------------------------------

/-- Whether a character may stand in a name behind the first one. -/
def isNamePart (c : Char) : Bool :=
  c.isAlphanum || c == '_' || c == '-' || c == '.' || c == ':'

/-- The name of an element or an attribute, which begins with a letter. -/
structure Name where
  first : Char
  others : List Char
  letter : first.isAlpha = true
  allowed : ∀ c ∈ others, isNamePart c = true

def Name.chars (name : Name) : List Char :=
  name.first :: name.others

def Name.text (name : Name) : String :=
  String.ofList name.chars

theorem Name.isName (name : Name) : IsName name.chars := by
  have hall : ∀ c ∈ name.chars, isNamePart c = true := by
    intro c hc
    rcases List.mem_cons.1 hc with rfl | hmem
    · simp [isNamePart, Char.isAlphanum, name.letter]
    · exact name.allowed c hmem
  exact isName_of_test (by decide) (List.cons_ne_nil _ _) hall

/-- Blanks between the parts of a tag. -/
structure Blanks where
  chars : List Char
  blank : ∀ c ∈ chars, isMarkupBlank c = true

-----------------------------------------------------------------------------------------
-- Characters
-----------------------------------------------------------------------------------------

/-- The notations for the number of a character. -/
inductive Radix
  | decimal
  | hexadecimal

def Radix.base : Radix → Nat
  | decimal => 10
  | hexadecimal => 16

/-- What tells a notation, in front of the digits. -/
def Radix.mark : Radix → List Char
  | decimal => []
  | hexadecimal => ['x']

/-- A digit, which is a small or a capital letter from ten on. -/
structure Digit (radix : Radix) where
  value : Fin radix.base
  capital : Bool

def Digit.char {radix : Radix} (digit : Digit radix) : Char :=
  if digit.value.val < 10 then Char.ofNat ('0'.toNat + digit.value.val)
  else Char.ofNat ((if digit.capital then 'A' else 'a').toNat + (digit.value.val - 10))

/-- The number that digits stand for, behind others that stand for `value`. -/
def numberFrom {radix : Radix} (value : Nat) (digits : List (Digit radix)) : Nat :=
  digits.foldl (fun value digit => value * radix.base + digit.value.val) value

/-- The entities that need no declaration. -/
inductive Entity
  | lt
  | gt
  | amp
  | apos
  | quot

def Entity.char : Entity → Char
  | lt => '<'
  | gt => '>'
  | amp => '&'
  | apos => '\''
  | quot => '"'

def Entity.name : Entity → List Char
  | lt => ['l', 't']
  | gt => ['g', 't']
  | amp => ['a', 'm', 'p']
  | apos => ['a', 'p', 'o', 's']
  | quot => ['q', 'u', 'o', 't']

/-- A reference to a character by its name or by its number.  Zero has no reference. -/
inductive Reference
  | named (entity : Entity)
  | numbered (char : Char) (radix : Radix) (digits : List (Digit radix))
    (means : numberFrom 0 digits = char.toNat) (nonzero : char.toNat ≠ 0)

/-- The character that is meant. -/
def Reference.char : Reference → Char
  | named entity => entity.char
  | numbered char .. => char

/-- What stands between the ampersand and the semicolon. -/
def Reference.name : Reference → List Char
  | named entity => entity.name
  | numbered _ radix digits .. => '#' :: (radix.mark ++ digits.map Digit.char)

def Reference.written (reference : Reference) : List Char :=
  '&' :: (reference.name ++ [';'])

/-- A character as it is written: as itself, which not every place allows, or by a reference. -/
inductive Character (plain : Char → Bool)
  | literal (char : Char) (allowed : plain char = true)
  | reference (reference : Reference)

/-- The character that is meant. -/
def Character.char {plain : Char → Bool} : Character plain → Char
  | literal char _ => char
  | reference meant => meant.char

def Character.written {plain : Char → Bool} : Character plain → List Char
  | literal char _ => [char]
  | reference meant => meant.written

-----------------------------------------------------------------------------------------
-- Tags
-----------------------------------------------------------------------------------------

inductive Quote
  | single
  | double

def Quote.char : Quote → Char
  | single => '\''
  | double => '"'

/-- Whether a character may stand as itself in a value. -/
def isPlainInValue (quote : Quote) (c : Char) : Bool :=
  !(['&', '<', quote.char, '\t', '\r', '\n'].contains c)

/-- An attribute with the blanks in front of it. -/
structure Attribute where
  gap : Blanks
  apart : gap.chars ≠ []
  name : Name
  quote : Quote
  value : List (Character (isPlainInValue quote))

/-- The name and the value that is meant. -/
def Attribute.entry (given : Attribute) : String × String :=
  (given.name.text, String.ofList (given.value.map Character.char))

/-- The characters between the quotes. -/
def Attribute.rawValue (given : Attribute) : List Char :=
  given.value.flatMap Character.written

def Attribute.written (given : Attribute) : List Char :=
  given.gap.chars
    ++ (given.name.chars ++ '=' :: given.quote.char :: (given.rawValue ++ [given.quote.char]))

/-- What a start tag says. -/
structure Head where
  tag : Name
  attributes : List Attribute
  distinct : (attributes.map fun entry => entry.name.text).Nodup
  ending : Blanks

def Head.entries (head : Head) : List (String × String) :=
  head.attributes.map Attribute.entry

def Head.written (head : Head) : List Char :=
  head.tag.chars ++ (head.attributes.flatMap Attribute.written ++ head.ending.chars)

/-- The tree of an element with this tag. -/
def Head.tree (head : Head) (text : List Char) (forest : List Tree) : Tree :=
  .node head.tag.text head.entries (String.ofList text) forest

def Head.emptyTag (head : Head) : List Char :=
  '<' :: (head.written ++ ['/', '>'])

def Head.startTag (head : Head) : List Char :=
  '<' :: (head.written ++ ['>'])

def Head.endTag (head : Head) : List Char :=
  '<' :: '/' :: (head.tag.chars ++ ['>'])

-----------------------------------------------------------------------------------------
-- Content
-----------------------------------------------------------------------------------------

/-- Whether a character may stand as itself in text. -/
def isPlainInText (c : Char) : Bool :=
  !(['&', '<', '\r'].contains c)

/-- The characters of a section in which nothing is markup. -/
structure Verbatim where
  chars : List Char
  returnless : '\r' ∉ chars
  unended : ¬ [']', ']', '>'] <:+: chars

def Verbatim.written (piece : Verbatim) : List Char :=
  '<' :: '!' :: '[' :: 'C' :: 'D' :: 'A' :: 'T' :: 'A' :: '['
    :: (piece.chars ++ [']', ']', '>'])

/-- What says nothing about the tree. -/
inductive Aside
  | comment (body : List Char) (dashless : ¬ ['-', '-'] <:+: body)
    (last : body.getLast? ≠ some '-')
  | instruction (name body : List Char) (nonempty : name ≠ [])
    (letters : ∀ c ∈ name, c.isAlpha = true) (reserved : name ≠ ['x', 'm', 'l'])
    (unended : ¬ ['?', '>'] <:+: body)

def Aside.written : Aside → List Char
  | comment body .. => '<' :: '!' :: '-' :: '-' :: (body ++ ['-', '-', '>'])
  | instruction name body .. => '<' :: '?' :: ((name ++ ' ' :: body) ++ ['?', '>'])

/-- What stands in an element, from a place on. -/
inductive Content
  | done
  | character (one : Character isPlainInText) (rest : Content)
  | verbatim (piece : Verbatim) (rest : Content)
  | aside (note : Aside) (rest : Content)
  | empty (head : Head) (rest : Content)
  | element (head : Head) (inside rest : Content)

namespace Content

def written : Content → List Char
  | done => []
  | character one rest => one.written ++ rest.written
  | verbatim piece rest => piece.written ++ rest.written
  | aside note rest => note.written ++ rest.written
  | empty head rest => head.emptyTag ++ rest.written
  | element head inside rest =>
      head.startTag ++ (inside.written ++ (head.endTag ++ rest.written))

/-- The text in front of the first element. -/
def leadingText : Content → List Char
  | done => []
  | character one rest => one.char :: rest.leadingText
  | verbatim piece rest => piece.chars ++ rest.leadingText
  | aside _ rest => rest.leadingText
  | empty .. => []
  | element .. => []

/-- The trees of the elements. -/
def forest : Content → List Tree
  | done => []
  | character _ rest => rest.forest
  | verbatim _ rest => rest.forest
  | aside _ rest => rest.forest
  | empty head rest => head.tree [] [] :: rest.forest
  | element head inside rest => head.tree inside.leadingText inside.forest :: rest.forest

end Content

end Manuscript

/-- A written document: its root, which is an empty tag or has content between two tags. -/
inductive Manuscript
  | empty (head : Manuscript.Head)
  | element (head : Manuscript.Head) (inside : Manuscript.Content)

namespace Manuscript

def written : Manuscript → List Char
  | empty head => head.emptyTag
  | element head inside => head.startTag ++ (inside.written ++ head.endTag)

/-- The tree that is meant. -/
def tree : Manuscript → Tree
  | empty head => head.tree [] []
  | element head inside => head.tree inside.leadingText inside.forest

-----------------------------------------------------------------------------------------
-- Every tree has a manuscript
-----------------------------------------------------------------------------------------

/-- A tree whose tags and attributes have names, in no element the same name twice. -/
inductive Named : Tree → Prop
  | node {tag : String} {attributes : List (String × String)} {text : String}
    {children : List Tree} (tagged : ∃ name : Name, name.text = tag)
    (entitled : ∀ entry ∈ attributes, ∃ name : Name, name.text = entry.1)
    (distinct : (attributes.map Prod.fst).Nodup) (below : ∀ child ∈ children, Named child)
    : Named (.node tag attributes text children)

theorem exists_map_eq {α β : Type} {f : α → β} {targets : List β}
    (h : ∀ target ∈ targets, ∃ source, f source = target)
    : ∃ sources : List α, sources.map f = targets :=
  (Set.ext_iff.1 (Set.range_list_map f) targets).2 h

/-- Every number has decimal digits, by induction on the number. -/
theorem exists_decimal (number : Nat)
    : ∃ digits : List (Digit .decimal), numberFrom 0 digits = number := by
  induction number using Nat.strongRecOn with
  | ind number ih =>
      rcases Nat.eq_zero_or_pos number with rfl | hpos
      · exact ⟨[], rfl⟩
      · obtain ⟨digits, hdigits⟩ := ih (number / 10) (Nat.div_lt_self hpos (by decide))
        have hlast : number % 10 < Radix.decimal.base := Nat.mod_lt number (by decide)
        refine ⟨digits ++ [⟨⟨number % 10, hlast⟩, false⟩], ?_⟩
        have happend : numberFrom 0 (digits ++ [⟨⟨number % 10, hlast⟩, false⟩])
            = numberFrom 0 digits * 10 + number % 10 := by
          simp [numberFrom, Radix.base]
        rw [happend, hdigits]
        exact Nat.div_add_mod' number 10

/-- Every character can be written where zero, which has no reference, is plain. -/
theorem exists_character {plain : Char → Bool} (hzero : plain (Char.ofNat 0) = true) (c : Char)
    : ∃ one : Character plain, one.char = c := by
  by_cases hc : c.toNat = 0
  · obtain rfl : c = Char.ofNat 0 := by rw [← hc, Char.ofNat_toNat]
    exact ⟨.literal _ hzero, rfl⟩
  · obtain ⟨digits, hdigits⟩ := exists_decimal c.toNat
    exact ⟨.reference (.numbered c .decimal digits hdigits hc), rfl⟩

theorem exists_attribute {entry : String × String} (h : ∃ name : Name, name.text = entry.1)
    : ∃ given : Attribute, given.entry = entry := by
  obtain ⟨name, hname⟩ := h
  have hzero : isPlainInValue .double (Char.ofNat 0) = true := rfl
  obtain ⟨value, hvalue⟩ := exists_map_eq fun c (_ : c ∈ entry.2.toList) =>
    exists_character hzero c
  refine ⟨⟨⟨[' '], by simp [isMarkupBlank]⟩, by simp, name, .double, value⟩, ?_⟩
  rw [Attribute.entry, hname, hvalue, String.ofList_toList]

theorem exists_head {tag : String} {entries : List (String × String)}
    (htag : ∃ name : Name, name.text = tag)
    (hentries : ∀ entry ∈ entries, ∃ name : Name, name.text = entry.1)
    (hdistinct : (entries.map Prod.fst).Nodup)
    : ∃ head : Head, head.tag.text = tag ∧ head.entries = entries := by
  obtain ⟨name, rfl⟩ := htag
  obtain ⟨attributes, rfl⟩ := exists_map_eq fun entry hentry =>
    exists_attribute (hentries entry hentry)
  rw [List.map_map] at hdistinct
  exact ⟨⟨name, attributes, hdistinct, ⟨[], by simp⟩⟩, rfl, rfl⟩

/-- Manuscripts in a row are the content of an element without text. -/
theorem exists_content (manuscripts : List Manuscript)
    : ∃ content : Content,
        content.leadingText = [] ∧ content.forest = manuscripts.map Manuscript.tree := by
  induction manuscripts with
  | nil => exact ⟨.done, rfl, rfl⟩
  | cons manuscript rest ih =>
      obtain ⟨content, -, hforest⟩ := ih
      cases manuscript with
      | empty head => exact ⟨.empty head content, rfl, congrArg _ hforest⟩
      | element head inside => exact ⟨.element head inside content, rfl, congrArg _ hforest⟩

/-- Text can stand in front of any content. -/
theorem exists_content_text (text : List Char) (content : Content)
    : ∃ extended : Content,
        extended.leadingText = text ++ content.leadingText
        ∧ extended.forest = content.forest := by
  have hzero : isPlainInText (Char.ofNat 0) = true := rfl
  induction text with
  | nil => exact ⟨content, rfl, rfl⟩
  | cons c rest ih =>
      obtain ⟨extended, htext, hforest⟩ := ih
      obtain ⟨one, rfl⟩ := exists_character hzero c
      exact ⟨.character one extended, congrArg _ htext, hforest⟩

/-- Every tree with proper names is meant by a manuscript, by induction on the tree. -/
theorem exists_manuscript {tree : Tree} (h : Named tree)
    : ∃ manuscript : Manuscript, manuscript.tree = tree := by
  induction h with
  | @node tag attributes text children tagged entitled distinct _ ih =>
      obtain ⟨head, rfl, rfl⟩ := exists_head tagged entitled distinct
      obtain ⟨manuscripts, rfl⟩ := exists_map_eq ih
      obtain ⟨content, htext, hforest⟩ := exists_content manuscripts
      obtain ⟨inside, hinside, hsame⟩ := exists_content_text text.toList content
      refine ⟨.element head inside, ?_⟩
      rw [Manuscript.tree, Head.tree, hinside, hsame, htext, hforest, List.append_nil,
        String.ofList_toList]

end Manuscript

end StoryAtlas.Markup
