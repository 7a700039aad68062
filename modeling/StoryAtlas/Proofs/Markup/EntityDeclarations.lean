import StoryAtlas.Proofs.FirstOfEach
import StoryAtlas.Proofs.Markup.DoctypeManuscript
import StoryAtlas.Proofs.Markup.EntitySearch
import StoryAtlas.Proofs.Markup.ReferenceMeaning
import StoryAtlas.Proofs.Outcome

/-! The entities of a written document type declaration.
The search goes from keyword to keyword, whatever stands between them.  So it finds the declared
entities if no keyword stands where it declares nothing, in a comment, an instruction or a literal
of another declaration, and if the names of entities hold none of the Unicode blanks that would
end them early.  A keyword in a comment is taken for a declaration.
-/

namespace StoryAtlas.Markup

open StoryAtlas.Text

-----------------------------------------------------------------------------------------
-- Values
-----------------------------------------------------------------------------------------

namespace Manuscript

variable {quote : Quote}

theorem lookupEntity?_nil : lookupEntity? [] = predefinedEntity? := by
  funext name
  unfold lookupEntity?
  cases predefinedEntity? name <;> rfl

theorem isNameChar_of_isEntityNameChar {c : Char} (h : isEntityNameChar c = true)
    : isNameChar c = true := by
  simp only [isEntityNameChar, List.contains_eq_mem, List.mem_cons, Bool.not_eq_true',
    decide_eq_false_iff_not, not_or] at h
  simp [isNameChar, h]

/-- The name of an entity is no number. -/
theorem EntityName.valueMeaning?_chars (name : EntityName)
    : valueMeaning? predefinedEntity? name.chars
      = (predefinedEntity? name.text).map String.toList := by
  unfold valueMeaning?
  split
  · next number hnumber =>
      have hsign := name.allowed '#' (hnumber ▸ List.mem_cons_self)
      exact absurd hsign (by decide)
  · rfl

/-- A part of a value is expanded to the character it means, and is a fault if it means none. -/
theorem ValuePart.exists_expandFrom (part : ValuePart quote) (total position : Nat)
    (rest : List Char)
    : ∃ next,
        (expandFrom predefinedEntity? total position (part.written ++ rest)).toOption
          = part.char?.bind fun c =>
              (expandFrom predefinedEntity? total next rest).toOption.map (c :: ·) := by
  cases part with
  | character one =>
      cases one with
      | literal c allowed =>
          have hc : c ≠ '&' := by
            rintro rfl
            simp [isPlainInEntity] at allowed
          rw [written, Character.written, List.singleton_append, expandFrom_of_ne hc, toOption_map]
          exact ⟨_, rfl⟩
      | reference meant =>
          rw [written, Character.written, ← lookupEntity?_nil, expandFrom_reference, toOption_map]
          exact ⟨_, rfl⟩
  | entity name other =>
      have hletters : ∀ c ∈ name.chars, isNameChar c = true := fun c hc =>
        isNameChar_of_isEntityNameChar (name.allowed c hc)
      have htake := takeWhile_append_cons (c := ';') hletters rfl rest
      have hdrop := dropWhile_append_cons (c := ';') hletters rfl rest
      have hunknown : valueMeaning? predefinedEntity? name.chars = none := by
        rw [name.valueMeaning?_chars, other]
        rfl
      have hwritten
          : (entity name other : ValuePart quote).written ++ rest
            = '&' :: (name.chars ++ ';' :: rest) := by
        simp [written]
      refine ⟨position, ?_⟩
      rw [hwritten]
      rcases exists_expandFrom_reference predefinedEntity? hdrop total position with
        ⟨text, _, htext, -⟩ | ⟨-, fault, hexpand⟩
      · rw [htake, hunknown] at htext
        exact absurd htext (Option.some_ne_none text).symm
      · rw [hexpand]
        rfl

/-- A value is expanded if all its references are to characters, by induction on its parts. -/
theorem toOption_expandFrom (total position : Nat) (value : List (ValuePart quote))
    : (expandFrom predefinedEntity? total position (rawText value)).toOption
      = value.mapM ValuePart.char? := by
  induction value generalizing position with
  | nil =>
      rw [rawText, List.flatMap_nil, expandFrom]
      rfl
  | cons part rest ih =>
      obtain ⟨next, hnext⟩ := part.exists_expandFrom total position (rawText rest)
      rw [rawText, List.flatMap_cons, ← rawText, hnext, ih, List.mapM_cons]
      cases part.char? <;> cases rest.mapM ValuePart.char? <;> rfl

theorem replacementText_rawText (value : List (ValuePart quote))
    : replacementText (rawText value) = valueText value := by
  have hexpand := toOption_expandFrom (byteLength (rawText value)) 0 value
  change (expand predefinedEntity? (rawText value)).toOption = _ at hexpand
  rw [replacementText, valueText, ← hexpand]
  cases expand predefinedEntity? (rawText value) <;> rfl

theorem ValuePart.quote_not_mem_written (part : ValuePart quote) : quote.char ∉ part.written := by
  intro hmem
  cases part with
  | character one =>
      rcases Character.of_mem_written hmem with hplain | hmark | hmark | hname
      · simp [isPlainInEntity] at hplain
      · cases quote <;> exact absurd hmark (by decide)
      · cases quote <;> exact absurd hmark (by decide)
      · cases quote <;> exact hname (by decide)
  | entity name other =>
      have hname : quote.char ∈ name.chars := by
        cases quote <;> simpa [written, Quote.char] using hmem
      have hallowed := name.allowed quote.char hname
      cases quote <;> exact absurd hallowed (by decide)

/-- The quotes around a value do not stand in it. -/
theorem quote_not_mem_rawText (value : List (ValuePart quote)) : quote.char ∉ rawText value := by
  intro hmem
  obtain ⟨part, -, hpart⟩ := List.mem_flatMap.1 hmem
  exact part.quote_not_mem_written hpart

-----------------------------------------------------------------------------------------
-- Declarations without hidden keywords
-----------------------------------------------------------------------------------------

/-- A literal in which there is no keyword. -/
def MarkupPart.Clear {plain : Char → Bool} : MarkupPart plain → Prop
  | single .. => True
  | literal _ body _ => ¬ entityKeyword <:+: body

/-- A name in which there is no blank of Unicode. -/
def EntityName.Clear (name : EntityName) : Prop :=
  ∀ c ∈ name.chars, isBlank c = false

/-- A declaration in which no keyword is hidden and no name ends early. -/
def Declaration.Clear : Declaration → Prop
  | comment body _ => ¬ entityKeyword <:+: body
  | instruction body _ => ¬ entityKeyword <:+: body
  | markup _ parts => ∀ part ∈ parts, part.Clear
  | parameter _ parts => ∀ part ∈ parts, part.Clear
  | external _ name _ _ parts => name.Clear ∧ ∀ part ∈ parts, part.Clear
  | general _ name .. => name.Clear

/-- A document type declaration in which no keyword is hidden and no name ends early. -/
structure Doctype.Clear (doctype : Doctype) : Prop where
  head : ∀ part ∈ doctype.head, part.Clear
  declarations : ∀ entry ∈ doctype.declarations, entry.1.Clear

instance {plain : Char → Bool} : (part : MarkupPart plain) → Decidable part.Clear
  | .single .. => .isTrue trivial
  | .literal _ body _ => inferInstanceAs (Decidable (¬ entityKeyword <:+: body))

instance (name : EntityName) : Decidable name.Clear :=
  List.decidableBAll _ name.chars

instance : (declaration : Declaration) → Decidable declaration.Clear
  | .comment body _ => inferInstanceAs (Decidable (¬ entityKeyword <:+: body))
  | .instruction body _ => inferInstanceAs (Decidable (¬ entityKeyword <:+: body))
  | .markup _ parts => List.decidableBAll _ parts
  | .parameter _ parts => List.decidableBAll _ parts
  | .external _ name _ _ parts =>
      inferInstanceAs (Decidable (name.Clear ∧ ∀ part ∈ parts, part.Clear))
  | .general _ name .. => inferInstanceAs (Decidable name.Clear)

theorem MarkupPart.silent {plain : Char → Bool} (hplain : plain '<' = false)
    {part : MarkupPart plain} (h : part.Clear)
    : Silent part.written := by
  cases part with
  | single char allowed =>
      refine .of_not_mem fun hmem => ?_
      rw [← List.mem_singleton.1 hmem, hplain] at allowed
      exact Bool.false_ne_true allowed
  | literal quote body unquoted =>
      have hopen : Silent [quote.char] := .of_not_mem (by cases quote <;> decide)
      have hclose : quote.char ∉ entityKeyword := by cases quote <;> decide
      exact hopen.append (.concat hclose h)

theorem EntityName.Clear.solid {name : EntityName} (h : name.Clear)
    : ∀ c ∈ name.chars, c ≠ '%' ∧ isBlank c = false := by
  intro c hc
  refine ⟨?_, h c hc⟩
  rintro rfl
  exact absurd (name.allowed _ hc) (by decide)

theorem Blanks.silent (blanks : Blanks) : Silent blanks.chars :=
  .of_not_mem fun hmem => absurd (blanks.blank '<' hmem) (by decide)

theorem Blanks.isBlank (blanks : Blanks) : ∀ c ∈ blanks.chars, Text.isBlank c = true :=
  fun c hc => isBlank_of_isMarkupBlank (blanks.blank c hc)

/-- The parts of a declaration up to its end. -/
theorem silent_parts {parts : List (MarkupPart isPlainInDeclaration)}
    (h : ∀ part ∈ parts, part.Clear)
    : Silent (parts.flatMap MarkupPart.written ++ ['>']) :=
  (Silent.flatMap fun part hpart => part.silent rfl (h part hpart)).append (.of_not_mem (by decide))

theorem silent_comment {body : List Char} (closed : ¬ ['-', '-'] <:+: body ++ ['-'])
    (h : ¬ entityKeyword <:+: body)
    : Silent (Declaration.comment body closed).written := by
  have hopen : Silent ['<', '!', '-', '-'] := by simp [Silent, entityKeyword]
  have hbody := Silent.concat (c := '-') (by decide) h
  have hclose : Silent ['-', '>'] := .of_not_mem (by decide)
  simpa [Declaration.written] using hopen.append (hbody.append hclose)

theorem silent_instruction {body : List Char} (unended : ¬ ['?', '>'] <:+: body)
    (h : ¬ entityKeyword <:+: body)
    : Silent (Declaration.instruction body unended).written := by
  have hopen : Silent ['<', '?'] := by simp [Silent, entityKeyword]
  have hbody := Silent.concat (c := '?') (by decide) h
  have hclose : Silent ['>'] := .of_not_mem (by decide)
  simpa [Declaration.written] using hopen.append (hbody.append hclose)

theorem silent_markup (kind : Kind) {parts : List (MarkupPart isPlainInDeclaration)}
    (h : ∀ part ∈ parts, part.Clear)
    : Silent (Declaration.markup kind parts).written := by
  have hopen : Silent ('<' :: '!' :: kind.keyword) := by
    cases kind <;> simp [Silent, entityKeyword, Kind.keyword]
  exact hopen.append (silent_parts h)

theorem declarationsIn_parameter (gap : Gap) {parts : List (MarkupPart isPlainInDeclaration)}
    (h : ∀ part ∈ parts, part.Clear) (rest : List Char)
    : declarationsIn ((Declaration.parameter gap parts).written ++ rest) = declarationsIn rest := by
  have hbehind := (@Silent.of_not_mem ['%'] (by decide)).append (silent_parts h)
  have hwritten : (Declaration.parameter gap parts).written ++ rest
      = entityKeyword
        ++ (gap.chars ++ '%' :: (parts.flatMap MarkupPart.written ++ ['>'] ++ rest)) := by
    simp [Declaration.written]
  rw [hwritten, declarationsIn_keyword, scanDeclaration_parameter gap.isBlank]
  exact declarationsIn_silent hbehind rest

theorem Source.exists_keyword_eq_cons (source : Source)
    : ∃ next letters,
        source.keyword = next :: letters
        ∧ isBlank next = false
        ∧ ¬ (next = '"' ∨ next = '\'')
        ∧ Silent source.keyword := by
  cases source <;> exact ⟨_, _, rfl, by decide, by decide, .of_not_mem (by decide)⟩

/-- Behind the name of an external entity there is no quote. -/
theorem declarationsIn_external (gap : Gap) {name : EntityName} (hname : name.Clear)
    (between : Gap) (source : Source) {parts : List (MarkupPart isPlainInDeclaration)}
    (h : ∀ part ∈ parts, part.Clear) (rest : List Char)
    : declarationsIn ((Declaration.external gap name between source parts).written ++ rest)
      = declarationsIn rest := by
  obtain ⟨next, letters, hkeyword, hnext, hquote, hsilent⟩ := source.exists_keyword_eq_cons
  have hbehind := hsilent.append (silent_parts h)
  rw [hkeyword] at hbehind
  have hwritten : (Declaration.external gap name between source parts).written ++ rest
      = entityKeyword
        ++ (gap.chars
          ++ (name.chars
            ++ (between.chars
              ++ next :: (letters ++ (parts.flatMap MarkupPart.written ++ ['>']) ++ rest)))) := by
    simp [Declaration.written, hkeyword]
  rw [hwritten, declarationsIn_keyword,
    scanDeclaration_named gap.isBlank name.nonempty hname.solid between.apart between.isBlank
      hnext,
    if_neg hquote]
  exact declarationsIn_silent hbehind rest

/-- The value of a general entity ends at the first quote, as there is none in it. -/
theorem declarationsIn_general (gap : Gap) {name : EntityName} (hname : name.Clear)
    (between : Gap) (value : List (ValuePart quote)) (ending : Blanks) (rest : List Char)
    : declarationsIn ((Declaration.general gap name between quote value ending).written ++ rest)
      = (name.text, String.ofList (valueText value)) :: declarationsIn rest := by
  have hbehind := ending.silent.append (@Silent.of_not_mem ['>'] (by decide))
  have hnext : isBlank quote.char = false := by cases quote <;> decide
  have hquote : quote.char = '"' ∨ quote.char = '\'' := by cases quote <;> decide
  have hwritten : (Declaration.general gap name between quote value ending).written ++ rest
      = entityKeyword
        ++ (gap.chars
          ++ (name.chars
            ++ (between.chars
              ++ quote.char
                :: (rawText value ++ quote.char :: (ending.chars ++ ['>'] ++ rest))))) := by
    simp [Declaration.written]
  rw [hwritten, declarationsIn_keyword,
    scanDeclaration_named gap.isBlank name.nonempty hname.solid between.apart between.isBlank
      hnext,
    if_pos hquote, splitOnce?_singleton (quote_not_mem_rawText value)]
  dsimp only
  rw [declarationsIn_silent hbehind, replacementText_rawText]
  rfl

/-- A declaration gives its entity, if it declares one, and the search goes on behind it, by cases
on the declaration.
-/
theorem Declaration.declarationsIn_written {declaration : Declaration} (h : declaration.Clear)
    (rest : List Char)
    : declarationsIn (declaration.written ++ rest)
      = declaration.entry?.toList ++ declarationsIn rest := by
  cases declaration with
  | comment body closed => exact declarationsIn_silent (silent_comment closed h) rest
  | instruction body unended => exact declarationsIn_silent (silent_instruction unended h) rest
  | markup kind parts => exact declarationsIn_silent (silent_markup kind h) rest
  | parameter gap parts => exact declarationsIn_parameter gap h rest
  | external gap name between source parts =>
      exact declarationsIn_external gap h.1 between source h.2 rest
  | general gap name between quote value ending =>
      exact declarationsIn_general gap h between value ending rest

/-- The search finds the declared entities, by induction on the declarations. -/
theorem declarationsIn_flatMap {declarations : List (Declaration × Blanks)}
    (h : ∀ entry ∈ declarations, entry.1.Clear) (rest : List Char)
    : declarationsIn
          (declarations.flatMap (fun (declaration, blanks) =>
            declaration.written ++ blanks.chars) ++ rest)
        = declarations.filterMap (fun (declaration, _) => declaration.entry?)
          ++ declarationsIn rest := by
  induction declarations with
  | nil => rfl
  | cons entry others ih =>
      obtain ⟨declaration, blanks⟩ := entry
      rw [List.flatMap_cons, List.append_assoc, List.append_assoc,
        Declaration.declarationsIn_written (h _ List.mem_cons_self),
        declarationsIn_silent blanks.silent,
        ih fun other hother => h other (List.mem_cons_of_mem _ hother)]
      cases hentry : declaration.entry? <;> simp [hentry]

theorem Doctype.declarationsIn_written {doctype : Doctype} (h : doctype.Clear)
    : declarationsIn doctype.written = doctype.declared := by
  have hhead : Silent (doctype.head.flatMap MarkupPart.written ++ ['[']) :=
    (Silent.flatMap fun part hpart => part.silent rfl (h.head part hpart)).append
      (.of_not_mem (by decide))
  have hend : Silent (']' :: doctype.ending.chars) :=
    (@Silent.of_not_mem [']'] (by decide)).append doctype.ending.silent
  have hwritten : doctype.written
      = doctype.head.flatMap MarkupPart.written ++ ['[']
        ++ (doctype.first.chars
          ++ (doctype.declarations.flatMap (fun (declaration, blanks) =>
              declaration.written ++ blanks.chars)
            ++ (']' :: doctype.ending.chars ++ []))) := by
    simp [written]
  rw [hwritten, declarationsIn_silent hhead, declarationsIn_silent doctype.first.silent,
    declarationsIn_flatMap h.declarations, declarationsIn_silent hend]
  exact List.append_nil _

-----------------------------------------------------------------------------------------
-- The table of entities
-----------------------------------------------------------------------------------------

theorem firstEntries_eq_firstOfEach (entries : Entities)
    : firstEntries entries = firstOfEach Prod.fst entries := by
  induction entries with
  | nil => rfl
  | cons entry rest ih => rw [firstEntries, firstOfEach, ih]

theorem declaredEntities_eq (doctype : List Char)
    : declaredEntities doctype = firstOfEach Prod.fst (declarationsIn doctype) :=
  firstEntries_eq_firstOfEach _

/-- If no keyword is hidden in a document type declaration and no name ends early, the table has
the names of the internal general entities, each of them once, and with every name the text of its
first declaration.
-/
theorem Doctype.declaredEntities_written {doctype : Doctype} (clear : doctype.Clear)
    : ((declaredEntities doctype.written).map Prod.fst).Nodup
      ∧ (∀ name,
          name ∈ (declaredEntities doctype.written).map Prod.fst
            ↔ name ∈ doctype.declared.map Prod.fst)
      ∧ ∀ name, (declaredEntities doctype.written).lookup name = doctype.declared.lookup name := by
  rw [declaredEntities_eq, declarationsIn_written clear]
  exact ⟨nodup_map_firstOfEach _ _, fun name => mem_map_firstOfEach_iff, lookup_firstOfEach _⟩

def Gap.space : Gap where
  chars := [' ']
  blank := by simp [isMarkupBlank]
  apart := by simp

/-- A name of one letter. -/
def EntityName.single (c : Char) (allowed : isEntityNameChar c = true) : EntityName where
  chars := [c]
  nonempty := by simp
  allowed := by simpa using allowed

/-- A text outside the literals of a declaration. -/
def plainParts {plain : Char → Bool} (text : String)
    (allowed : ∀ c ∈ text.toList, plain c = true)
    : List (MarkupPart plain) :=
  text.toList.attach.map fun c => .single c.1 (allowed c.1 c.2)

/-- A text without references in the value of an entity. -/
def plainValue (text : String) (allowed : ∀ c ∈ text.toList, isPlainInEntity quote c = true)
    : List (ValuePart quote) :=
  text.toList.attach.map fun c => .character (.literal c.1 (allowed c.1 c.2))

/-- Declarations of all kinds: a comment with a single apostrophe, literals with the other quotes,
two declarations of one name, and a value in which there are a keyword and an entity.
-/
def Doctype.mixed : Doctype where
  head := plainParts " a SYSTEM " (by simp [isPlainInHead]) ++ [.literal .double ['['] (by decide)]
  first := ⟨[], by simp⟩
  declarations :=
    [(.comment " don't ".toList (by decide +kernel), Gap.space.toBlanks),
      (.instruction "p \"".toList (by decide +kernel), Gap.space.toBlanks),
      (.markup .attributes
        (plainParts " a b CDATA " (by simp [isPlainInDeclaration])
          ++ [.literal .double "it's >".toList (by decide +kernel)]),
        Gap.space.toBlanks),
      (.parameter .space
        (plainParts " p " (by simp [isPlainInDeclaration])
          ++ [.literal .single "<p \"".toList (by decide +kernel)]),
        Gap.space.toBlanks),
      (.external .space (.single 'f' rfl) .space .system
        (plainParts " " (by simp [isPlainInDeclaration]) ++ [.literal .double ['f'] (by decide)]),
        Gap.space.toBlanks),
      (.general .space (.single 'e' rfl) .space .single
        (.character (.reference (.named .lt))
          :: plainValue "\"" (by simp [isPlainInEntity, Quote.char]))
        Gap.space.toBlanks, Gap.space.toBlanks),
      (.general .space (.single 'e' rfl) .space .double
        (plainValue "y" (by simp [isPlainInEntity, Quote.char]))
        Gap.space.toBlanks, Gap.space.toBlanks),
      (.general .space (.single 'g' rfl) .space .double
        (plainValue "<!ENTITY e 'x'>" (by simp [isPlainInEntity, Quote.char])
          ++ [.character (.reference (.named .lt)), .entity (.single 'e' rfl) rfl])
        Gap.space.toBlanks, Gap.space.toBlanks)]
  ending := ⟨[], by simp⟩

theorem Doctype.declaredEntities_written_of_mixed
    : Doctype.mixed.Clear
      ∧ (declaredEntities Doctype.mixed.written).lookup "e" = some "<\""
      ∧ (declaredEntities Doctype.mixed.written).lookup "f" = none
      ∧ (declaredEntities Doctype.mixed.written).lookup "g" = some "<!ENTITY e 'x'>&lt;&e;" := by
  have clear : Doctype.mixed.Clear := ⟨by decide +kernel, by decide +kernel⟩
  obtain ⟨-, -, hlookup⟩ := declaredEntities_written clear
  refine ⟨clear, ?_, ?_, ?_⟩
  · rw [hlookup]
    decide +kernel
  · rw [hlookup]
    decide +kernel
  · rw [hlookup]
    decide +kernel

/-- A declaration in a comment, in front of another one of the same name. -/
def Doctype.hidden : Doctype where
  head := plainParts " a " (by simp [isPlainInHead])
  first := ⟨[], by simp⟩
  declarations :=
    [(.comment " <!ENTITY e \"x\"> ".toList (by decide +kernel), Gap.space.toBlanks),
      (.general .space (.single 'e' rfl) .space .double
        (plainValue "y" (by simp [isPlainInEntity, Quote.char])) ⟨[], by simp⟩, ⟨[], by simp⟩)]
  ending := ⟨[], by simp⟩

/-- Not every document type declaration gives its entities: one in a comment counts as well. -/
theorem Doctype.not_forall_lookup_declaredEntities
    : ¬ ∀ (doctype : Doctype) (name : String),
          (declaredEntities doctype.written).lookup name = doctype.declared.lookup name := by
  intro h
  have hfound : (declaredEntities Doctype.hidden.written).lookup "e" = some "x" := by
    decide +kernel
  have hmeant : Doctype.hidden.declared.lookup "e" = some "y" := by decide +kernel
  have hsame := h .hidden "e"
  rw [hfound, hmeant] at hsame
  exact absurd hsame (by decide)

end Manuscript

end StoryAtlas.Markup
