import StoryAtlas.Proofs.Document.Likeness
import StoryAtlas.Proofs.Markup.Reading
import StoryAtlas.Proofs.Outcome

/-! How far declared entities reach.
Entities are looked up for texts and for values only.  Which elements a reader opens and closes,
and which attributes they get, is told by the tags, so two sources with the same tokens but for
what their document type declarations say have documents of the same shape, whatever replacement
texts there are.
-/

namespace StoryAtlas

/-- No restriction on two texts. -/
def AnyTexts (_ _ : List Char) : Prop := True

/-- Documents with the same elements in the same places, whose tags and names of attributes are
the same.
-/
abbrev Document.SameShape (document other : Document) : Prop :=
  document.SameUpTo AnyTexts other

theorem Document.appendText_empty (document : Document) (id : ElementId)
    : document.appendText id "" = document := by
  refine eq_of_element? fun other => ?_
  rw [element?_appendText]
  split <;> simp

namespace Markup

open StoryAtlas.Text

/-- A token without what a document type declaration says. -/
def Token.withoutDeclarations : Token → Token
  | doctype _ => doctype []
  | token => token

/-- The tokens of a source text, without what its document type declarations say. -/
def tokensWithoutDeclarations (source : String) : List Token :=
  (lexSource source).1.map fun lexeme => lexeme.token.withoutDeclarations

theorem Token.eq_or_doctype {token other : Token}
    (h : other.withoutDeclarations = token.withoutDeclarations)
    : other = token ∨ ∃ body otherBody, token = .doctype body ∧ other = .doctype otherBody := by
  cases token <;> cases other <;> simp_all [withoutDeclarations]

-----------------------------------------------------------------------------------------
-- Two readers of the same shape
-----------------------------------------------------------------------------------------

/-- Two open elements that are the same but for where they stand in the source. -/
structure SamePlace (element other : OpenElement) : Prop where
  id : other.id = element.id
  tag : other.tag = element.tag

namespace Reader

/-- Two readers with documents of the same shape, in which the same elements are open. -/
structure SameShape (reader other : Reader) : Prop where
  root
    : Option.Rel (fun root otherRoot => root.document.SameShape otherRoot.document) reader.root
        other.root
  opened : List.Forall₂ SamePlace reader.opened other.opened

/-- A tag has the same names of attributes with any entities, by induction on its attributes. -/
theorem sameName_readTag (entities otherEntities : Entities) (span otherSpan : Span)
    (raws : List (Except AttributeFault RawAttribute))
    : List.Forall₂ (SameName AnyTexts) (readTag entities span raws).1
        (readTag otherEntities otherSpan raws).1 := by
  induction raws with
  | nil => exact .nil
  | cons raw rest ih =>
      cases raw with
      | error fault => exact ih
      | ok raw => exact .cons ⟨rfl, trivial⟩ ih

namespace SameShape

variable {reader other : Reader}

theorem addElement (h : reader.SameShape other) (content : List Char) (span otherSpan : Span)
    : ResultsAgree
        (fun result otherResult =>
          result.1.SameShape otherResult.1 ∧ SamePlace result.2 otherResult.2)
        (reader.addElement content span) (other.addElement content otherSpan) := by
  have hattributes :=
    Attributes.sameUpTo_ofList
      (sameName_readTag reader.entities other.entities span otherSpan (attributesOf content))
  have hroot := h.root
  have hopened := h.opened
  unfold Reader.addElement
  dsimp only
  generalize reader.root = root? at hroot ⊢
  generalize other.root = otherRoot? at hroot ⊢
  generalize reader.opened = opened at hopened ⊢
  generalize other.opened = otherOpened at hopened ⊢
  cases hroot with
  | none =>
      refine .ok ⟨⟨.some ?_, hopened⟩, rfl, rfl⟩
      exact Document.sameUpTo_new trivial _ hattributes
  | some hdocument =>
      cases hopened with
      | nil => exact .error_left _
      | @cons parent otherParent _ _ hparent hothers =>
          have hadded :=
            hdocument.addChild trivial parent.id (String.ofList (tagName content)) hattributes
          dsimp only
          rw [hparent.id]
          exact .ok ⟨⟨.some hadded.1, .cons hparent hothers⟩, hadded.2, rfl⟩

/-- Any two texts may be added. -/
theorem addText (h : reader.SameShape other) (text otherText : List Char)
    (span otherSpan : Span)
    : ResultsAgree SameShape (reader.addText text span) (other.addText otherText otherSpan) := by
  obtain ⟨root?, opened, entities, problems⟩ := reader
  obtain ⟨otherRoot?, otherOpened, otherEntities, otherProblems⟩ := other
  have hroot := h.root
  have hopened := h.opened
  dsimp only at hroot hopened
  cases hroot with
  | none =>
      simp only [Reader.addText]
      split
      · split
        · exact .ok h
        · exact .error_right _
      · exact .error_left _
  | some hdocument =>
      cases hopened with
      | nil =>
          simp only [Reader.addText]
          split
          · split
            · exact .ok h
            · exact .error_right _
          · exact .error_left _
      | cons helement hothers =>
          simp only [Reader.addText, helement.id]
          refine .ok ⟨.some ?_, .cons helement hothers⟩
          exact hdocument.appendText (fun _ _ => trivial) _ trivial

theorem closeElement (h : reader.SameShape other) (content : List Char) (span otherSpan : Span)
    : ResultsAgree SameShape (reader.closeElement content span)
        (other.closeElement content otherSpan) := by
  have hopened := h.opened
  unfold Reader.closeElement
  dsimp only
  generalize String.ofList (if (dropEndWhile isMarkupBlank content).isEmpty then content
    else dropEndWhile isMarkupBlank content) = name
  generalize reader.opened = opened at hopened ⊢
  generalize other.opened = otherOpened at hopened ⊢
  cases hopened with
  | nil => exact .error_left _
  | @cons element otherElement _ _ helement hothers =>
      dsimp only
      rw [helement.tag]
      by_cases htag : element.tag = name
      · rw [if_pos htag, if_pos htag]
        exact .ok ⟨h.root, hothers⟩
      · rw [if_neg htag]
        exact .error_left _

end SameShape

/-- The empty text changes nothing and may stand anywhere. -/
theorem addText_nil (reader : Reader) (span : Span) : reader.addText [] span = .ok reader := by
  obtain ⟨root?, opened, entities, problems⟩ := reader
  unfold addText
  dsimp only
  split
  · rw [String.ofList_nil, Document.appendText_empty]
  · rfl

/-- A reference is read as some text, the empty one if it means nothing. -/
theorem exists_step_reference (reader : Reader) (name : List Char) (span : Span)
    : ∃ (noted : Reader) (text : List Char),
        noted.root = reader.root
        ∧ noted.opened = reader.opened
        ∧ reader.step ⟨.reference name, span⟩ = noted.addText text span := by
  unfold step
  dsimp only
  cases resolveReference? reader.entities name with
  | some text => exact ⟨reader, text, rfl, rfl, rfl⟩
  | none => exact ⟨reader.note _, [], rfl, rfl, (addText_nil _ span).symm⟩

/-- Reading one token keeps two readers of the same shape, whatever is declared, by cases on the
token.
-/
theorem SameShape.step {reader other : Reader} (h : reader.SameShape other)
    {lexeme otherLexeme : Lexeme}
    (htoken : otherLexeme.token.withoutDeclarations = lexeme.token.withoutDeclarations)
    : ResultsAgree SameShape (reader.step lexeme) (other.step otherLexeme) := by
  obtain ⟨token, span⟩ := lexeme
  obtain ⟨otherToken, otherSpan⟩ := otherLexeme
  rcases Token.eq_or_doctype htoken with heq | ⟨body, otherBody, hbody, hother⟩
  · obtain rfl : otherToken = token := heq
    cases otherToken with
    | startTag content =>
        refine (h.addElement content span otherSpan).bind fun hadded => .ok ⟨hadded.1.root, ?_⟩
        exact .cons hadded.2 hadded.1.opened
    | emptyTag content =>
        exact (h.addElement content span otherSpan).bind fun hadded => .ok hadded.1
    | endTag content => exact h.closeElement content span otherSpan
    | text first others => exact h.addText _ _ span otherSpan
    | cdata chars => exact h.addText _ _ span otherSpan
    | reference name =>
        obtain ⟨noted, text, hroot, hopened, hstep⟩ := reader.exists_step_reference name span
        obtain ⟨otherNoted, otherText, hotherRoot, hotherOpened, hotherStep⟩ :=
          other.exists_step_reference name otherSpan
        have hnoted : noted.SameShape otherNoted :=
          ⟨by rw [hroot, hotherRoot]; exact h.root, by rw [hopened, hotherOpened]; exact h.opened⟩
        rw [hstep, hotherStep]
        exact hnoted.addText text otherText span otherSpan
    | doctype body => exact .ok ⟨h.root, h.opened⟩
    | comment body => exact .ok h
    | instruction body => exact .ok h
  · dsimp only at hbody hother
    subst hbody hother
    exact .ok ⟨h.root, h.opened⟩

/-- A document is what the reader has read of it when the tokens end. -/
theorem exists_root_of_finish {reader : Reader} {ending : Ending} {document : Document}
    (h : reader.finish ending = .ok document)
    : ∃ root, reader.root = some root ∧ root.document = document := by
  unfold finish at h
  split at h
  · cases h
  · split at h
    · cases h
    · cases h
    · next root _ hroot =>
        split at h
        · exact ⟨root, hroot, Except.ok.inj h⟩
        · cases h

theorem SameShape.finish {reader other : Reader} (h : reader.SameShape other)
    (ending otherEnding : Ending)
    : ResultsAgree Document.SameShape (reader.finish ending) (other.finish otherEnding) := by
  intro document otherDocument hdocument hother
  obtain ⟨root, hroot, rfl⟩ := exists_root_of_finish hdocument
  obtain ⟨otherRoot, hotherRoot, rfl⟩ := exists_root_of_finish hother
  have hroots := h.root
  rw [hroot, hotherRoot] at hroots
  cases hroots with
  | some hshape => exact hshape

end Reader

-----------------------------------------------------------------------------------------
-- Source texts
-----------------------------------------------------------------------------------------

/-- Two source texts whose tokens differ only in what their document type declarations say have
documents of the same shape, if they have documents at all: no replacement text makes, moves or
hides an element or an attribute.
-/
theorem sameShape_of_parse {source other : String} {document otherDocument : Document}
    (htokens : tokensWithoutDeclarations other = tokensWithoutDeclarations source)
    (h : parse source = .ok document) (hother : parse other = .ok otherDocument)
    : document.SameShape otherDocument := by
  have hlexemes
      : List.Forall₂
          (fun lexeme otherLexeme : Lexeme =>
            otherLexeme.token.withoutDeclarations = lexeme.token.withoutDeclarations)
          (lexSource source).1 (lexSource other).1 := by
    refine List.Forall₂.flip ?_
    unfold tokensWithoutDeclarations at htokens
    rw [← List.forall₂_eq_eq_eq, List.forall₂_map_left_iff, List.forall₂_map_right_iff] at htokens
    exact htokens
  have hinitial : Reader.SameShape {} {} := ⟨.none, .nil⟩
  have hread : ResultsAgree Document.SameShape (readSource source) (readSource other) :=
    (ResultsAgree.foldlM (fun hreaders => hreaders.step) hlexemes hinitial).bind
      fun hreaders => hreaders.finish _ _
  exact hread.mapError h hother

/-- An entity with a replacement text full of tags, and one without any. -/
theorem sameShape_of_parse_of_tags_in_entity
    : let plain := "<!DOCTYPE a [<!ENTITY e 'x'>]><a k='&e;'>&e;<b/></a>"
      let tagged := "<!DOCTYPE a [<!ENTITY e '</a><b id=\"1\">'>]><a k='&e;'>&e;<b/></a>"
      tokensWithoutDeclarations tagged = tokensWithoutDeclarations plain
        ∧ ∃ document other,
            parse plain = .ok document ∧ parse tagged = .ok other ∧ document.SameShape other := by
  intro plain tagged
  have htokens : tokensWithoutDeclarations tagged = tokensWithoutDeclarations plain := by
    decide +kernel
  have hplain : (parse plain).isOk = true := by decide +kernel
  have htagged : (parse tagged).isOk = true := by decide +kernel
  obtain ⟨document, hdocument⟩ := exists_of_isOk hplain
  obtain ⟨other, hother⟩ := exists_of_isOk htagged
  exact ⟨htokens, document, other, hdocument, hother,
    sameShape_of_parse htokens hdocument hother⟩

end Markup

end StoryAtlas
