import StoryAtlas.Proofs.Text.Letters
import StoryAtlas.Render.Dot

/-! Names of graphs as identifiers.
An identifier of the description language is a word that is no keyword, or a string in quotes.
What follows the first word of a description is an identifier whose value is the name of the graph,
unless this name is a keyword: it is written without quotes then, and is no identifier.
-/

namespace StoryAtlas.Render.Dot

open StoryAtlas.Text

-----------------------------------------------------------------------------------------
-- Identifiers
-----------------------------------------------------------------------------------------

/-- The keywords of the language. -/
def keywords : List String := ["node", "edge", "graph", "digraph", "subgraph", "strict"]

/-- Whether a word is a keyword, in capital or small letters. -/
def isKeyword (word : List Char) : Bool :=
  keywords.contains (String.ofList (word.map Char.toLower))

/-- Whether a character is a letter without an accent. -/
def isPlainLetter (c : Char) : Bool :=
  ('A' ≤ c && c ≤ 'Z') || ('a' ≤ c && c ≤ 'z')

/-- Whether characters are a word: letters, digits and underscores, no digit in front. -/
def isWord (chars : List Char) : Bool :=
  (chars.head?.any fun c => isPlainLetter c || c == '_')
    && chars.all fun c => isPlainLetter c || ('0' ≤ c && c ≤ '9') || c == '_'

/-- The value of a string in quotes, given what follows its opening quote.  Its closing quote, the
first one that is not escaped, must be the last character.
-/
def quotedValue? : List Char → Option (List Char)
  | [] => none
  | '"' :: rest => if rest = [] then some [] else none
  | '\\' :: '"' :: rest => (quotedValue? rest).map ('"' :: ·)
  | '\\' :: '\\' :: rest => (quotedValue? rest).map ('\\' :: ·)
  | c :: rest => (quotedValue? rest).map (c :: ·)

/-- The value of an identifier, if all of the characters are one. -/
def identifierValue? (token : List Char) : Option String :=
  match token with
  | '"' :: rest => (quotedValue? rest).map String.ofList
  | word => if isWord word && !isKeyword word then some (String.ofList word) else none

-----------------------------------------------------------------------------------------
-- Names in quotes
-----------------------------------------------------------------------------------------

/-- Escaped characters in quotes have the value that was escaped, by induction on them. -/
theorem quotedValue?_escapeQuoted (text : List Char)
    : quotedValue? (escapeQuoted text ++ ['"']) = some text := by
  rw [escapeQuoted_eq_flatMap]
  induction text with
  | nil => rfl
  | cons c text ih =>
      rw [List.flatMap_cons, List.append_assoc]
      by_cases hbackslash : c = '\\'
      · subst hbackslash
        simp [quotedChar, quotedValue?, ih]
      · by_cases hquote : c = '"'
        · subst hquote
          simp [quotedChar, quotedValue?, ih]
        · simp [quotedChar, quotedValue?, ih, hbackslash, hquote]

theorem identifierValue?_quoted (name : String) : identifierValue? (quoted name) = some name := by
  rw [quoted, identifierValue?, quotedValue?_escapeQuoted]
  simp

-----------------------------------------------------------------------------------------
-- Names without quotes
-----------------------------------------------------------------------------------------

theorem isPlainLetter_eq_isAlpha : isPlainLetter = Char.isAlpha := by
  funext c
  rw [Bool.eq_iff_iff, Text.isAlpha_iff]
  simp [isPlainLetter, Char.le_def, UInt32.le_iff_toNat_le]

theorem isNameStart_eq : isNameStart = fun c => isPlainLetter c || c == '_' := by
  rw [isPlainLetter_eq_isAlpha]
  rfl

theorem isNameChar_eq
    : isNameChar = fun c => isPlainLetter c || ('0' ≤ c && c ≤ '9') || c == '_' := by
  funext c
  rw [Bool.eq_iff_iff]
  simp [isNameChar, isPlainLetter_eq_isAlpha, Text.isAlphanum_iff, Text.isDigit_iff, Char.le_def,
    UInt32.le_iff_toNat_le]

/-- A name is written without quotes exactly if it is a word. -/
theorem graphName_eq (name : String)
    : graphName name = if isWord name.toList then name.toList else quoted name := by
  rw [graphName, isNameStart_eq, isNameChar_eq]
  rfl

/-- Keywords are words: all of their characters are letters. -/
theorem isWord_of_isKeyword {word : List Char} (h : isKeyword word = true)
    : isWord word = true := by
  have hletters
      : ∀ keyword ∈ keywords, keyword.toList ≠ [] ∧ keyword.toList.all Char.isAlpha = true := by
    decide
  obtain ⟨hne, hall⟩ := hletters _ (List.contains_iff_mem.1 h)
  rw [String.toList_ofList] at hne hall
  have hletter : ∀ c ∈ word, c.isAlpha = true :=
    fun c hc => isAlpha_of_toLower (List.all_eq_true.1 hall _ (List.mem_map_of_mem hc))
  cases word with
  | nil => exact absurd rfl hne
  | cons c rest =>
      have hrest : ∀ d ∈ rest, d.isAlpha = true := fun d hd =>
        hletter d (List.mem_cons_of_mem c hd)
      simp only [isWord, isPlainLetter_eq_isAlpha, List.head?_cons, Option.any_some,
        List.all_cons, hletter c List.mem_cons_self, Bool.true_or, Bool.true_and]
      exact List.all_eq_true.2 fun d hd => by rw [hrest d hd]; rfl

/-- A word does not begin with a quote, so its value is decided by the keywords alone. -/
theorem identifierValue?_of_isWord {word : List Char} (h : isWord word = true)
    : identifierValue? word = if isKeyword word then none else some (String.ofList word) := by
  have hquote : ∀ rest, word ≠ '"' :: rest := by
    rintro rest rfl
    simp [isWord, isPlainLetter] at h
  rw [identifierValue?]
  · cases isKeyword word <;> simp [h]
  · exact hquote

-----------------------------------------------------------------------------------------
-- The name of a description
-----------------------------------------------------------------------------------------

/-- Behind its first word a description has an identifier whose value is the name of the graph.
Only a name that is a keyword is no identifier there.
-/
theorem identifierValue?_graphName (settings : RenderSettings) (graph : Graph)
    : (∃ rest,
        (render settings graph).toList
        = "digraph ".toList ++ graphName settings.graphName ++ [' ', '\x7b'] ++ rest)
      ∧ identifierValue? (graphName settings.graphName)
        = if isKeyword settings.graphName.toList then none else some settings.graphName := by
  refine ⟨⟨'\n' :: (body settings.display graph ++ "\x7d\n".toList), ?_⟩, ?_⟩
  · have htext : (render settings graph).toList
        = "digraph ".toList ++ graphName settings.graphName ++ " \x7b\n".toList
          ++ body settings.display graph ++ "\x7d\n".toList :=
      String.toList_ofList
    rw [htext]
    simp only [List.append_assoc]
    rfl
  · rw [graphName_eq]
    by_cases hword : isWord settings.graphName.toList = true
    · rw [if_pos hword, identifierValue?_of_isWord hword, String.ofList_toList]
    · have hkeyword : isKeyword settings.graphName.toList = false :=
        Bool.eq_false_iff.2 fun hkeyword => hword (isWord_of_isKeyword hkeyword)
      rw [if_neg hword, identifierValue?_quoted, hkeyword]
      rfl

/-- Not every name is written as an identifier. -/
theorem not_forall_identifierValue?_graphName
    : ¬ ∀ name : String, identifierValue? (graphName name) = some name := by
  intro h
  exact absurd (h "node") (by decide)

end StoryAtlas.Render.Dot
