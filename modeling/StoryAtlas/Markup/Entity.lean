import StoryAtlas.Markup.Reference
import StoryAtlas.Text.Search

/-! Entities declared in a document type declaration.
The declarations are found by their keyword wherever it stands.  Only a name with a quoted
literal declares an entity, its first declaration counts, and its literal is expanded when all
references in it are predefined or numbers.
-/

namespace StoryAtlas.Markup

open StoryAtlas.Text

/-- The keyword of an entity declaration. -/
def entityKeyword : List Char :=
  ['<', '!', 'E', 'N', 'T', 'I', 'T', 'Y']

/-- The replacement text of a literal. -/
def replacementText (literal : List Char) : List Char :=
  match expand predefinedEntity? literal with
  | .ok text => text
  | .error _ => literal

/-- One step of the search, behind an entity keyword. -/
inductive DeclarationScan
  /-- No declaration with a literal; the search goes on here. -/
  | skip (rest : List Char)
  /-- A declaration; the search goes on behind it. -/
  | found (name literal rest : List Char)
  /-- A literal without an end, which ends the search. -/
  | unclosed

/-- Reads what follows an entity keyword. -/
def scanDeclaration (chars : List Char) : DeclarationScan :=
  let chars := trimStartChars chars
  if chars.head? = some '%' then .skip chars
  else
    let afterName := trimStartChars (chars.dropWhile fun c => !isBlank c)
    match afterName with
    | [] => .skip []
    | quote :: inner =>
        if quote = '"' ∨ quote = '\'' then
          match splitOnce? [quote] inner with
          | none => .unclosed
          | some (literal, rest) => .found (chars.takeWhile fun c => !isBlank c) literal rest
        else .skip afterName

/-- The declarations of a text in order, repeated names included.  The first argument bounds the
number of steps; every step passes a keyword. -/
def scanDeclarations : Nat → List Char → Entities
  | 0, _ => []
  | steps + 1, chars =>
      match splitOnce? entityKeyword chars with
      | none => []
      | some (_, rest) =>
          match scanDeclaration rest with
          | .skip rest => scanDeclarations steps rest
          | .unclosed => []
          | .found name literal rest =>
              (String.ofList name, String.ofList (replacementText literal))
                :: scanDeclarations steps rest

/-- Keeps the first entry of each name. -/
def firstEntries : Entities → Entities
  | [] => []
  | entry :: rest => entry :: (firstEntries rest).filter fun other => other.1 ≠ entry.1

/-- The entities a document type declaration declares. -/
def declaredEntities (doctype : List Char) : Entities :=
  firstEntries (scanDeclarations doctype.length doctype)

end StoryAtlas.Markup
