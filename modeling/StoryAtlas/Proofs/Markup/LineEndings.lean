import StoryAtlas.Proofs.Document.Likeness
import StoryAtlas.Proofs.Markup.LineFeedAttributes
import StoryAtlas.Proofs.Markup.LineFeedEntities
import StoryAtlas.Proofs.Markup.LineFeedTokens

/-! Documents of texts that differ by their line endings.
A text and the text with line feeds for its line breaks are read side by side, token by token, by
two readers that agree.  Only entities tell them apart: their replacement texts keep the line
breaks that are written in the document type declaration.
-/

namespace StoryAtlas.Markup

open StoryAtlas.Text

variable {rel : List Char → List Char → Prop}

-----------------------------------------------------------------------------------------
-- Attributes
-----------------------------------------------------------------------------------------

namespace Reader

section Attributes

variable {entities otherEntities : Entities}

/-- A value is expanded alike with entities that agree, as its own line breaks are spaces. -/
theorem attributeValue_agree (hrel : Compatible rel)
    (hentities : TablesAgree rel entities otherEntities) (span otherSpan : Span)
    {raw other : RawAttribute} (hraw : RawTurned raw other)
    : rel (attributeValue entities span raw).1.toList
          (attributeValue otherEntities otherSpan other).1.toList
        ∧ ((attributeValue otherEntities otherSpan other).2 = none
          ↔ (attributeValue entities span raw).2 = none) := by
  have hvalue : normalizeValue other.value = normalizeValue raw.value := by
    rw [hraw.2, normalizeValue_lineFeeds]
  have hexpand
      : Alike rel (expand (lookupEntity? entities) (normalizeValue raw.value))
          (expand (lookupEntity? otherEntities) (normalizeValue raw.value)) :=
    expandFrom_alike hrel (hentities.valueMeaning? hrel) _ _ _ _ _
  unfold attributeValue
  rw [hvalue]
  dsimp only
  generalize expand (lookupEntity? entities) (normalizeValue raw.value) = text at hexpand ⊢
  generalize expand (lookupEntity? otherEntities) (normalizeValue raw.value) = otherText
    at hexpand ⊢
  cases hexpand with
  | ok htext =>
      refine ⟨?_, Iff.rfl⟩
      rwa [String.toList_ofList, String.toList_ofList]
  | error fault otherFault => exact ⟨hrel.refl _, by simp⟩

/-- The attributes of a tag agree, and there are problems in both tags or in none. -/
theorem readTag_agree (hrel : Compatible rel) (hentities : TablesAgree rel entities otherEntities)
    (span otherSpan : Span) {raws others : List (Except AttributeFault RawAttribute)}
    (h : List.Forall₂ (Alike RawTurned) raws others)
    : List.Forall₂ (SameName rel) (readTag entities span raws).1
          (readTag otherEntities otherSpan others).1
        ∧ ((readTag otherEntities otherSpan others).2 = []
          ↔ (readTag entities span raws).2 = []) := by
  induction h with
  | nil => exact ⟨.nil, Iff.rfl⟩
  | cons hraw _ ih =>
      obtain ⟨hattributes, hproblems⟩ := ih
      cases hraw with
      | error fault otherFault => exact ⟨hattributes, by simp [readTag]⟩
      | @ok raw other hraw =>
          have hvalue := attributeValue_agree hrel hentities span otherSpan hraw
          refine ⟨.cons ⟨?_, hvalue.1⟩ hattributes, ?_⟩
          · exact congrArg String.ofList hraw.1
          · simp only [readTag, List.append_eq_nil_iff, Option.toList_eq_nil_iff, hvalue.2,
              hproblems]

end Attributes

-----------------------------------------------------------------------------------------
-- Readers that agree
-----------------------------------------------------------------------------------------

theorem exists_turned_text (first : Char) (others : List Char)
    : ∃ d rest,
        (Token.text first others).turned = .text d rest
        ∧ d :: rest = lineFeeds false (first :: others) := by
  rw [Token.turned]
  by_cases hfirst : first = '\r'
  · rw [if_pos hfirst, hfirst, lineFeeds_return]
    exact ⟨_, _, rfl, rfl⟩
  · rw [if_neg hfirst, lineFeeds_cons hfirst]
    exact ⟨_, _, rfl, rfl⟩

theorem unbreaking_tagName (content : List Char) : Unbreaking (tagName content) :=
  unbreaking_takeWhile (by decide) (by decide) content

/-- A name without line breaks is the same as another one before and after. -/
theorem eq_ofList_lineFeeds_iff {tag : String} (h : Unbreaking tag.toList) (name : List Char)
    : tag = String.ofList (lineFeeds false name) ↔ tag = String.ofList name := by
  by_cases hname : Unbreaking name
  · rw [lineFeeds_of_not_mem hname.1]
  · have hturned := not_unbreaking_lineFeeds hname
    constructor
    · rintro rfl
      rw [String.toList_ofList] at h
      exact absurd h hturned
    · rintro rfl
      rw [String.toList_ofList] at h
      exact absurd h hname

/-- Two open elements that are closed by the same end tags. -/
structure SameOpen (element other : OpenElement) : Prop where
  id : other.id = element.id
  tag : other.tag = element.tag
  unbreaking : Unbreaking element.tag.toList

/-- Two readers that have read the same up to texts and values, and met problems both or none. -/
structure Agrees (rel : List Char → List Char → Prop) (reader other : Reader) : Prop where
  root
    : Option.Rel (fun root otherRoot => root.document.SameUpTo rel otherRoot.document) reader.root
        other.root
  opened : List.Forall₂ SameOpen reader.opened other.opened
  entities : TablesAgree rel reader.entities other.entities
  problems : other.problems = [] ↔ reader.problems = []

namespace Agrees

variable {reader other : Reader}

theorem initial : Agrees rel {} {} where
  root := .none
  opened := .nil
  entities := .nil
  problems := Iff.rfl

/-- Both readers add the element of a tag or both have a second root. -/
theorem addElement (hrel : Compatible rel) (h : reader.Agrees rel other) (content : List Char)
    (span otherSpan : Span)
    : Alike
        (fun result otherResult =>
          result.1.Agrees rel otherResult.1 ∧ SameOpen result.2 otherResult.2)
        (reader.addElement content span)
        (other.addElement (lineFeeds false content) otherSpan) := by
  have htag := readTag_agree hrel h.entities span otherSpan (attributesOf_alike content)
  have hattributes := Attributes.sameUpTo_ofList htag.1
  have hproblems
      : other.problems ++ (readTag other.entities otherSpan
            (attributesOf (lineFeeds false content))).2 = []
        ↔ reader.problems ++ (readTag reader.entities span (attributesOf content)).2 = [] := by
    rw [List.append_eq_nil_iff, List.append_eq_nil_iff, h.problems, htag.2]
  have hunbreaking : Unbreaking (String.ofList (tagName content)).toList := by
    rw [String.toList_ofList]
    exact unbreaking_tagName content
  have hroot := h.root
  have hopened := h.opened
  unfold Reader.addElement
  rw [tagName_lineFeeds]
  dsimp only
  generalize reader.root = root? at hroot ⊢
  generalize other.root = otherRoot? at hroot ⊢
  generalize reader.opened = opened at hopened ⊢
  generalize other.opened = otherOpened at hopened ⊢
  cases hroot with
  | none =>
      refine .ok ⟨⟨?_, hopened, h.entities, hproblems⟩, rfl, rfl, hunbreaking⟩
      exact .some (Document.sameUpTo_new (hrel.refl []) _ hattributes)
  | @some root otherRoot hdocument =>
      cases hopened with
      | nil => exact .error _ _
      | @cons parent otherParent _ _ hparent hothers =>
          have hadded :=
            hdocument.addChild (hrel.refl []) parent.id (String.ofList (tagName content))
              hattributes
          dsimp only
          rw [hparent.id]
          refine .ok ⟨⟨.some hadded.1, ?_, h.entities, hproblems⟩, ?_⟩
          · exact .cons hparent hothers
          · exact ⟨hadded.2, rfl, hunbreaking⟩

/-- Both readers add the text or both find it outside the root element. -/
theorem addText (hrel : Compatible rel) (h : reader.Agrees rel other) {text otherText : List Char}
    (htext : rel text otherText) (span otherSpan : Span)
    : Alike (Agrees rel) (reader.addText text span) (other.addText otherText otherSpan) := by
  obtain ⟨root?, opened, entities, problems⟩ := reader
  obtain ⟨otherRoot?, otherOpened, otherEntities, otherProblems⟩ := other
  have hblank := hrel.blank htext
  have hstring : rel (String.ofList text).toList (String.ofList otherText).toList := by
    rwa [String.toList_ofList, String.toList_ofList]
  have hroot := h.root
  have hopened := h.opened
  dsimp only at hroot hopened
  cases hroot with
  | none =>
      simp only [Reader.addText, hblank]
      split
      · exact .ok h
      · exact .error _ _
  | @some root otherRoot hdocument =>
      cases hopened with
      | nil =>
          simp only [Reader.addText, hblank]
          split
          · exact .ok h
          · exact .error _ _
      | cons helement hothers =>
          simp only [Reader.addText, helement.id]
          refine .ok { h with root := .some ?_ }
          exact hdocument.appendText hrel.append _ hstring

/-- An end tag closes an element without line breaks in its tag only if it has none itself. -/
theorem closeElement (h : reader.Agrees rel other) (content : List Char) (span otherSpan : Span)
    : Alike (Agrees rel) (reader.closeElement content span)
        (other.closeElement (lineFeeds false content) otherSpan) := by
  have hname
      : (if (dropEndWhile isMarkupBlank (lineFeeds false content)).isEmpty then
            lineFeeds false content
          else dropEndWhile isMarkupBlank (lineFeeds false content))
        = lineFeeds false
            (if (dropEndWhile isMarkupBlank content).isEmpty then content
              else dropEndWhile isMarkupBlank content) := by
    rw [dropEndWhile_lineFeeds (by decide) (by decide), apply_ite (lineFeeds false)]
    refine ite_congr ?_ (fun _ => rfl) fun _ => rfl
    rw [List.isEmpty_iff, List.isEmpty_iff, lineFeeds_eq_nil_iff]
  unfold Reader.closeElement
  dsimp only
  rw [hname]
  generalize (if (dropEndWhile isMarkupBlank content).isEmpty then content
    else dropEndWhile isMarkupBlank content) = name
  have hopened := h.opened
  generalize reader.opened = opened at hopened ⊢
  generalize other.opened = otherOpened at hopened ⊢
  cases hopened with
  | nil => exact .error _ _
  | @cons element otherElement _ _ helement hothers =>
      have hsame
          : otherElement.tag = String.ofList (lineFeeds false name)
            ↔ element.tag = String.ofList name := by
        rw [helement.tag]
        exact eq_ofList_lineFeeds_iff helement.unbreaking name
      dsimp only
      by_cases htag : element.tag = String.ofList name
      · rw [if_pos htag, if_pos (hsame.mpr htag)]
        exact .ok { h with opened := hothers }
      · rw [if_neg htag, if_neg fun hother => htag (hsame.mp hother)]
        exact .error _ _

/-- Both readers read a token, whose entities agree if it declares some, or both end at it. -/
theorem step (hrel : Compatible rel) (h : reader.Agrees rel other) {lexeme otherLexeme : Lexeme}
    (htoken : otherLexeme.token = lexeme.token.turned)
    (hentities
      : ∀ body, lexeme.token = .doctype body →
          TablesAgree rel (declaredEntities body) (declaredEntities (lineFeeds false body)))
    : Alike (Agrees rel) (reader.step lexeme) (other.step otherLexeme) := by
  obtain ⟨token, span⟩ := lexeme
  obtain ⟨otherToken, otherSpan⟩ := otherLexeme
  dsimp only at htoken hentities
  subst htoken
  cases token with
  | startTag content =>
      refine (h.addElement hrel content span otherSpan).bind fun hadded => ?_
      exact .ok { hadded.1 with opened := .cons hadded.2 hadded.1.opened }
  | emptyTag content =>
      exact (h.addElement hrel content span otherSpan).bind fun hadded => .ok hadded.1
  | endTag content => exact h.closeElement content span otherSpan
  | text first others =>
      obtain ⟨d, rest, hturned, hchars⟩ := exists_turned_text first others
      rw [hturned, Reader.step, Reader.step]
      dsimp only
      rw [hchars, normalizeLineBreaks_lineFeeds, normalizeLineBreaks_eq]
      exact h.addText hrel (hrel.refl _) span otherSpan
  | reference name =>
      have hmeaning := h.entities.resolveReference? hrel name
      simp only [Reader.step, Token.turned]
      generalize resolveReference? reader.entities name = text? at hmeaning ⊢
      generalize resolveReference? other.entities (lineFeeds false name) = otherText?
        at hmeaning ⊢
      cases hmeaning with
      | some htext => exact h.addText hrel htext span otherSpan
      | none => exact .ok { h with problems := by simp [note] }
  | cdata chars =>
      simp only [Reader.step, Token.turned]
      rw [normalizeLineBreaks_lineFeeds, normalizeLineBreaks_eq]
      exact h.addText hrel (hrel.refl _) span otherSpan
  | comment body => exact .ok h
  | instruction body => exact .ok h
  | doctype body => exact .ok { h with entities := hentities body rfl }

/-- Both readers have a document behind the last token or both have met a problem. -/
theorem finish (h : reader.Agrees rel other) (position otherPosition : Nat)
    : Alike (Document.SameUpTo rel) (reader.finish (.complete position))
        (other.finish (.complete otherPosition)) := by
  obtain ⟨root?, opened, entities, problems⟩ := reader
  obtain ⟨otherRoot?, otherOpened, otherEntities, otherProblems⟩ := other
  have hroot := h.root
  have hopened := h.opened
  have hproblems := h.problems
  dsimp only at hroot hopened hproblems
  simp only [Reader.finish, List.isEmpty_iff]
  cases hopened with
  | cons _ _ => exact .error _ _
  | nil =>
      cases hroot with
      | none => exact .error _ _
      | some hdocument =>
          by_cases hnone : problems = []
          · simp only [if_pos hnone, if_pos (hproblems.mpr hnone)]
            exact .ok hdocument
          · simp only [if_neg hnone, if_neg fun hother => hnone (hproblems.mp hother)]
            exact .error _ _

end Agrees

/-- A text that goes on with a fault is not read. -/
theorem readFrom_fault {c : Char} {chars : List Char} {fault : TokenFault}
    (h : readToken c chars = .error fault) (reader : Reader) (position : Nat)
    : ∃ problems, reader.readFrom position (c :: chars) = .error problems := by
  rw [readFrom, lex_fault h]
  exact ⟨_, rfl⟩

/-- Two readers that agree read a text and its turned text alike, by induction on its length. -/
theorem Agrees.readFrom (hrel : Compatible rel) {reader other : Reader}
    (h : reader.Agrees rel other) (position otherPosition : Nat) (chars : List Char)
    (hentities
      : ∀ lexeme ∈ (lex position chars).1, ∀ body, lexeme.token = .doctype body →
          TablesAgree rel (declaredEntities body) (declaredEntities (lineFeeds false body)))
    : Alike (Document.SameUpTo rel) (reader.readFrom position chars)
        (other.readFrom otherPosition (lineFeeds false chars)) := by
  induction hlength : chars.length using Nat.strong_induction_on
    generalizing reader other position otherPosition chars with
  | _ length ih =>
      subst hlength
      cases chars with
      | nil =>
          rw [lineFeeds, readFrom_nil, readFrom_nil]
          exact h.finish position otherPosition
      | cons c rest =>
          obtain ⟨d, others, hturned, htoken⟩ := readToken_alike c rest
          rw [hturned]
          cases hread : readToken c rest with
          | error fault =>
              rw [hread] at htoken
              cases hother : readToken d others with
              | ok split =>
                  rw [hother] at htoken
                  cases htoken
              | error otherFault =>
                  obtain ⟨problems, hproblems⟩ := readFrom_fault hread reader position
                  obtain ⟨otherProblems, hotherProblems⟩ :=
                    readFrom_fault hother other otherPosition
                  rw [hproblems, hotherProblems]
                  exact .error _ _
          | ok split =>
              rw [hread] at htoken
              cases hother : readToken d others with
              | error otherFault =>
                  rw [hother] at htoken
                  cases htoken
              | ok otherSplit =>
                  rw [hother] at htoken
                  cases htoken with
                  | ok hsplit =>
                      obtain ⟨token, after⟩ := split
                      obtain rfl := hsplit
                      rw [readFrom_cons hread, readFrom_cons hother]
                      rw [lex_cons hread] at hentities
                      refine (h.step hrel rfl (hentities _ List.mem_cons_self)).bind ?_
                      intro next otherNext hnext
                      refine ih after.length (length_lt_of_readToken hread) hnext _ _ after ?_ rfl
                      intro lexeme hlexeme
                      exact hentities lexeme (List.mem_cons_of_mem _ hlexeme)

end Reader

-----------------------------------------------------------------------------------------
-- Source texts
-----------------------------------------------------------------------------------------

/-- The source text with a line feed for each pair of a return and a line feed and for each other
return.
-/
def withLineFeeds (source : String) : String :=
  String.ofList (normalizeLineBreaks source.toList)

/-- The document type declarations of a source text. -/
def doctypes (source : String) : List (List Char) :=
  (lexSource source).1.filterMap fun lexeme =>
    match lexeme.token with
    | .doctype body => some body
    | _ => none

theorem mem_doctypes {source : String} {lexeme : Lexeme} {body : List Char}
    (hlexeme : lexeme ∈ (lexSource source).1) (hbody : lexeme.token = .doctype body)
    : body ∈ doctypes source := by
  rw [doctypes, List.mem_filterMap]
  exact ⟨lexeme, hlexeme, by rw [hbody]⟩

/-- A source text is read behind its byte order marks. -/
theorem lexSource_eq (source : String)
    : lexSource source
      = match dropPiece? ['\uFEFF'] source.toList with
        | none => lex 0 source.toList
        | some chars => lex 3 ((dropPiece? ['\uFEFF'] chars).getD chars) := by
  unfold lexSource
  split
  · next chars hchars => simp [hchars, dropPiece?]
  · next chars hsecond hchars =>
      have hdrop : dropPiece? ['\uFEFF'] chars = none := by
        rw [Option.eq_none_iff_forall_ne_some]
        intro rest hrest
        exact hsecond rest (dropPiece?_eq_some_iff.mp hrest)
      simp [hchars, dropPiece?, hdrop]
  · next hfirst =>
      have hdrop : dropPiece? ['\uFEFF'] source.toList = none := by
        rw [Option.eq_none_iff_forall_ne_some]
        intro rest hrest
        exact hfirst rest (dropPiece?_eq_some_iff.mp hrest)
      simp [hdrop]

/-- Byte order marks come first before and after. -/
theorem exists_lexSource_eq (source : String)
    : ∃ position chars,
        lexSource source = lex position chars
        ∧ lexSource (withLineFeeds source) = lex position (lineFeeds false chars) := by
  have hmark : Unbreaking ['\uFEFF'] := by simp [Unbreaking]
  rw [lexSource_eq, lexSource_eq, withLineFeeds, String.toList_ofList, normalizeLineBreaks_eq,
    dropPiece?_lineFeeds hmark]
  cases dropPiece? ['\uFEFF'] source.toList with
  | none => exact ⟨0, source.toList, rfl, rfl⟩
  | some chars =>
      refine ⟨3, (dropPiece? ['\uFEFF'] chars).getD chars, rfl, ?_⟩
      rw [Option.map_some]
      dsimp only
      rw [dropPiece?_lineFeeds hmark, Option.getD_map]

/-- A source text is read alike before and after if its entities agree. -/
theorem parse_alike (hrel : Compatible rel) (source : String)
    (hentities
      : ∀ body ∈ doctypes source,
          TablesAgree rel (declaredEntities body) (declaredEntities (lineFeeds false body)))
    : Alike (Document.SameUpTo rel) (parse source) (parse (withLineFeeds source)) := by
  obtain ⟨position, chars, hlex, hturned⟩ := exists_lexSource_eq source
  have hread := Reader.Agrees.initial.readFrom hrel position position chars ?_
  · rw [parse, parse, readSource, readSource, hlex, hturned]
    exact hread.mapError
  · intro lexeme hlexeme body hbody
    exact hentities body (mem_doctypes (hlex ▸ hlexeme) hbody)

/-- Line endings matter to no document but through the entities it declares: a source text and the
one with line feeds for its line breaks have documents both or none.  These are the same up to
line breaks in texts and values, and equal if turning line breaks changes no declared entity.
-/
theorem parse_withLineFeeds_alike (source : String)
    : Alike
        (fun document other =>
          document.SameUpTo BreaksTurned other
          ∧ ((∀ body ∈ doctypes source,
                declaredEntities (normalizeLineBreaks body) = declaredEntities body) →
              other = document))
        (parse source) (parse (withLineFeeds source)) := by
  have hturned
      : Alike (Document.SameUpTo BreaksTurned) (parse source) (parse (withLineFeeds source)) :=
    parse_alike compatible_breaksTurned source fun body _ => declaredEntities_agree body
  refine hturned.and_of_imp fun hunchanged => ?_
  have hequal
      : Alike (Document.SameUpTo Eq) (parse source) (parse (withLineFeeds source)) := by
    refine parse_alike compatible_eq source fun body hbody => ?_
    have htable := hunchanged body hbody
    rw [normalizeLineBreaks_eq] at htable
    rw [htable]
    exact (declaredEntities_agree body).same
  exact hequal.mono fun h => h.eq

/-- Line endings matter where an entity is declared: its replacement text keeps them. -/
theorem not_forall_parse_withLineFeeds_eq
    : ¬ ∀ source : String, Alike Eq (parse source) (parse (withLineFeeds source)) := by
  intro hall
  let source := "<!DOCTYPE a [<!ENTITY e 'x\r\ny'>]><a>&e;</a>"
  have hreturns
      : (parse source).map (fun document => document.rootElement.text) = .ok "x\r\ny" := by
    decide +kernel
  have hfeeds
      : (parse (withLineFeeds source)).map (fun document => document.rootElement.text)
        = .ok "x\ny" := by
    decide +kernel
  have htexts
      : Alike Eq ((parse source).map fun document => document.rootElement.text)
          ((parse (withLineFeeds source)).map fun document => document.rootElement.text) :=
    (hall source).map fun h => congrArg (fun document => document.rootElement.text) h
  rw [hreturns, hfeeds] at htexts
  cases htexts with
  | ok heq => exact absurd heq (by decide)

end StoryAtlas.Markup
