import StoryAtlas.Text.Search

/-! The extent of a document type declaration.
A declaration ends at the first `>` that is neither quoted nor inside the internal subset, and
inside the subset every construct is left by its own rule.  The scan goes through the characters
once with a mode that says in which construct it is.
-/

namespace StoryAtlas.Markup

/-- The construct of a document type declaration in which a scan is. -/
inductive DoctypeMode
  /-- Before the internal subset. -/
  | head
  /-- In a quoted literal before the internal subset. -/
  | headLiteral (quote : Char)
  /-- In the internal subset, between its declarations. -/
  | subset
  | instruction
  | comment
  /-- In a declaration that may hold quoted literals, and in such a literal if there is a
  quote. -/
  | declaration (quote : Option Char)
  /-- In any other markup, which ends at the next `>`. -/
  | plain
  /-- Behind the internal subset. -/
  | tail

/-- The keywords of the declarations that may hold quoted literals, as they follow a `<`. -/
def literalDeclarations : List (List Char) :=
  [['!', 'E', 'N', 'T', 'I', 'T', 'Y'], ['!', 'A', 'T', 'T', 'L', 'I', 'S', 'T'],
    ['!', 'N', 'O', 'T', 'A', 'T', 'I', 'O', 'N']]

/-- The mode of a markup of the internal subset, told by what follows its `<`. -/
def DoctypeMode.ofMarkup (rest : List Char) : DoctypeMode :=
  if literalDeclarations.any fun keyword => (Text.dropPiece? keyword rest).isSome then
    .declaration none
  else .plain

/-- Adds a character in front of the first part of a split. -/
def consSplit (c : Char) (split : List Char × List Char) : List Char × List Char :=
  (c :: split.1, split.2)

/-- Splits the characters at the `>` that ends the declaration. -/
def splitDoctype? : DoctypeMode → List Char → Option (List Char × List Char)
  | _, [] => none
  | .head, c :: rest =>
      if c = '>' then some ([], rest)
      else if c = '[' then (splitDoctype? .subset rest).map (consSplit c)
      else if c = '"' ∨ c = '\'' then (splitDoctype? (.headLiteral c) rest).map (consSplit c)
      else (splitDoctype? .head rest).map (consSplit c)
  | .headLiteral quote, c :: rest =>
      (splitDoctype? (if c = quote then .head else .headLiteral quote) rest).map (consSplit c)
  | .subset, '<' :: '?' :: rest =>
      (splitDoctype? .instruction rest).map (consSplit '<' ∘ consSplit '?')
  | .subset, '<' :: '!' :: '-' :: '-' :: rest =>
      (splitDoctype? .comment rest).map
        (consSplit '<' ∘ consSplit '!' ∘ consSplit '-' ∘ consSplit '-')
  | .subset, c :: rest =>
      (splitDoctype? (if c = ']' then .tail else if c = '<' then .ofMarkup rest else .subset)
        rest).map (consSplit c)
  | .instruction, '?' :: '>' :: rest =>
      (splitDoctype? .subset rest).map (consSplit '?' ∘ consSplit '>')
  | .instruction, c :: rest => (splitDoctype? .instruction rest).map (consSplit c)
  | .comment, '-' :: '-' :: '>' :: rest =>
      (splitDoctype? .subset rest).map (consSplit '-' ∘ consSplit '-' ∘ consSplit '>')
  | .comment, c :: rest => (splitDoctype? .comment rest).map (consSplit c)
  | .declaration none, c :: rest =>
      (splitDoctype?
        (if c = '>' then .subset
          else .declaration (if c = '"' ∨ c = '\'' then some c else none))
        rest).map (consSplit c)
  | .declaration (some quote), c :: rest =>
      (splitDoctype? (.declaration (if c = quote then none else some quote)) rest).map
        (consSplit c)
  | .plain, c :: rest =>
      (splitDoctype? (if c = '>' then .subset else .plain) rest).map (consSplit c)
  | .tail, c :: rest =>
      if c = '>' then some ([], rest) else (splitDoctype? .tail rest).map (consSplit c)

/-- The part in front of the final `>`, the `>`, and the part behind it are the whole. -/
theorem eq_append_of_splitDoctype? {mode : DoctypeMode} {chars body rest : List Char}
    (h : splitDoctype? mode chars = some (body, rest)) : chars = body ++ '>' :: rest := by
  fun_induction splitDoctype? mode chars generalizing body rest <;>
    grind [consSplit, Option.map_eq_some_iff]

/-- What follows the keyword `DOCTYPE`, which may be written in any letter case. -/
def dropDoctypeKeyword? (body : List Char) : Option (List Char) :=
  if (body.take 7).map Char.toLower = ['d', 'o', 'c', 't', 'y', 'p', 'e'] then
    some (body.drop 7)
  else none

end StoryAtlas.Markup
