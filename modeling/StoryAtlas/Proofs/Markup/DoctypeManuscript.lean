import StoryAtlas.Markup.Entity
import StoryAtlas.Proofs.Markup.Manuscript

/-! Written document type declarations.
Such a declaration is a sequence of comments, instructions and declarations of all kinds, with
every choice that is made in writing it.  It has a text and a meaning, the internal general
entities in the order in which they are declared.
-/

namespace StoryAtlas.Markup

open StoryAtlas.Text

namespace Manuscript

-----------------------------------------------------------------------------------------
-- Parts of declarations
-----------------------------------------------------------------------------------------

/-- Blanks that keep two parts of a declaration apart. -/
structure Gap extends Blanks where
  apart : chars ≠ []

/-- A part of a declaration: a character that means nothing, or a quoted literal. -/
inductive MarkupPart (plain : Char → Bool)
  | single (char : Char) (allowed : plain char = true)
  | literal (quote : Quote) (body : List Char) (unquoted : quote.char ∉ body)

def MarkupPart.written {plain : Char → Bool} : MarkupPart plain → List Char
  | single char _ => [char]
  | literal quote body _ => quote.char :: (body ++ [quote.char])

/-- Whether a character may stand outside the literals of a declaration. -/
def isPlainInDeclaration (c : Char) : Bool :=
  !(['<', '>', '"', '\''].contains c)

/-- Whether a character may stand outside the literals in front of the internal subset. -/
def isPlainInHead (c : Char) : Bool :=
  !(['<', '>', '"', '\'', '['].contains c)

/-- Whether a character may stand in the name of an entity. -/
def isEntityNameChar (c : Char) : Bool :=
  !(['#', '%', '&', ';', '<', '>', '"', '\'', ' ', '\t', '\r', '\n'].contains c)

/-- The name of an entity. -/
structure EntityName where
  chars : List Char
  nonempty : chars ≠ []
  allowed : ∀ c ∈ chars, isEntityNameChar c = true

def EntityName.text (name : EntityName) : String :=
  String.ofList name.chars

-----------------------------------------------------------------------------------------
-- Values of entities
-----------------------------------------------------------------------------------------

/-- Whether a character may stand as itself in the value of an entity. -/
def isPlainInEntity (quote : Quote) (c : Char) : Bool :=
  !(['&', quote.char].contains c)

/-- A part of the value of an entity: a character, or a reference to an entity that is not one of
the five predefined ones.
-/
inductive ValuePart (quote : Quote)
  | character (one : Character (isPlainInEntity quote))
  | entity (name : EntityName) (other : predefinedEntity? name.text = none)

namespace ValuePart

variable {quote : Quote}

def written : ValuePart quote → List Char
  | character one => one.written
  | entity name _ => '&' :: (name.chars ++ [';'])

/-- The character that is meant, if one is. -/
def char? : ValuePart quote → Option Char
  | character one => some one.char
  | entity .. => none

end ValuePart

/-- The characters between the quotes. -/
def rawText {quote : Quote} (value : List (ValuePart quote)) : List Char :=
  value.flatMap ValuePart.written

/-- The text that a value stands for: the characters that are meant if all its references are to
characters, and otherwise what is written.
-/
def valueText {quote : Quote} (value : List (ValuePart quote)) : List Char :=
  (value.mapM ValuePart.char?).getD (rawText value)

-----------------------------------------------------------------------------------------
-- Declarations
-----------------------------------------------------------------------------------------

/-- The declarations that are about no entity. -/
inductive Kind
  | element
  | attributes
  | format

def Kind.keyword : Kind → List Char
  | element => ['E', 'L', 'E', 'M', 'E', 'N', 'T']
  | attributes => ['A', 'T', 'T', 'L', 'I', 'S', 'T']
  | format => ['N', 'O', 'T', 'A', 'T', 'I', 'O', 'N']

/-- Where the text of an external entity is found. -/
inductive Source
  | system
  | published

def Source.keyword : Source → List Char
  | system => ['S', 'Y', 'S', 'T', 'E', 'M']
  | published => ['P', 'U', 'B', 'L', 'I', 'C']

/-- What stands in the internal subset. -/
inductive Declaration
  | comment (body : List Char) (closed : ¬ ['-', '-'] <:+: body ++ ['-'])
  | instruction (body : List Char) (unended : ¬ ['?', '>'] <:+: body)
  | markup (kind : Kind) (parts : List (MarkupPart isPlainInDeclaration))
  | parameter (gap : Gap) (parts : List (MarkupPart isPlainInDeclaration))
  | external (gap : Gap) (name : EntityName) (between : Gap) (source : Source)
    (parts : List (MarkupPart isPlainInDeclaration))
  | general (gap : Gap) (name : EntityName) (between : Gap) (quote : Quote)
    (value : List (ValuePart quote)) (ending : Blanks)

namespace Declaration

def written : Declaration → List Char
  | comment body _ => ['<', '!', '-', '-'] ++ (body ++ ['-', '-', '>'])
  | instruction body _ => ['<', '?'] ++ (body ++ ['?', '>'])
  | markup kind parts => '<' :: '!' :: (kind.keyword ++ (parts.flatMap MarkupPart.written ++ ['>']))
  | parameter gap parts =>
      entityKeyword ++ (gap.chars ++ '%' :: (parts.flatMap MarkupPart.written ++ ['>']))
  | external gap name between source parts =>
      entityKeyword
        ++ (gap.chars
          ++ (name.chars
            ++ (between.chars
              ++ (source.keyword ++ (parts.flatMap MarkupPart.written ++ ['>'])))))
  | general gap name between quote value ending =>
      entityKeyword
        ++ (gap.chars
          ++ (name.chars
            ++ (between.chars
              ++ quote.char :: (rawText value ++ quote.char :: (ending.chars ++ ['>'])))))

/-- The entity that is declared, if it is an internal general one. -/
def entry? : Declaration → Option (String × String)
  | general _ name _ _ value _ => some (name.text, String.ofList (valueText value))
  | _ => none

end Declaration

/-- A document type declaration behind its keyword.  Every declaration has its blanks behind it.
-/
structure Doctype where
  head : List (MarkupPart isPlainInHead)
  first : Blanks
  declarations : List (Declaration × Blanks)
  ending : Blanks

namespace Doctype

def written (doctype : Doctype) : List Char :=
  doctype.head.flatMap MarkupPart.written
    ++ '[' :: (doctype.first.chars
      ++ (doctype.declarations.flatMap (fun (declaration, blanks) =>
          declaration.written ++ blanks.chars)
        ++ ']' :: doctype.ending.chars))

/-- The internal general entities in order, repeated names included. -/
def declared (doctype : Doctype) : Entities :=
  doctype.declarations.filterMap fun (declaration, _) => declaration.entry?

end Doctype

end Manuscript

end StoryAtlas.Markup
