import StoryAtlas.Proofs.Markup.Elements

/-! The shape of a document.
The tokens of an accepted text are those of one element with others around it that are no tags and
have no text but blanks.  The grammar of XML documents is narrower in three ways: outside the
element it knows blanks of markup only, and these not as references or sections; it knows one
document type declaration; and this one stands in front of the element.
-/

namespace StoryAtlas.Markup

open StoryAtlas.Text

-----------------------------------------------------------------------------------------
-- The grammar of documents
-----------------------------------------------------------------------------------------

namespace Token

def isDoctype : Token → Bool
  | doctype _ => true
  | _ => false

/-- Comments, processing instructions and blanks of markup, which may stand around the root. -/
def isMisc : Token → Bool
  | comment _ | instruction _ => true
  | text first others => (first :: others).all isMarkupBlank
  | _ => false

/-- Character data in a form that may not stand around the root: as a reference, as a section, or as
text with other characters than blanks of markup. -/
def isCharacterData : Token → Bool
  | reference _ | cdata _ => true
  | text first others => !(first :: others).all isMarkupBlank
  | _ => false

end Token

/-- The parts of an XML document: one element without document type declarations, and around it
comments, processing instructions and blanks of markup, with one document type declaration at
most among those in front. -/
structure XmlParts (before root after : List Token) : Prop where
  element : IsElement root
  prolog : ∀ token ∈ before, token.isMisc = true ∨ token.isDoctype = true
  oneDoctype : before.countP Token.isDoctype ≤ 1
  noDoctype : ∀ token ∈ root, token.isDoctype = false
  epilog : ∀ token ∈ after, token.isMisc = true

/-- The tokens of an XML document. -/
def XmlShape (tokens : List Token) : Prop :=
  ∃ before root after, tokens = before ++ (root ++ after) ∧ XmlParts before root after

-----------------------------------------------------------------------------------------
-- Parts of a list of tokens
-----------------------------------------------------------------------------------------

theorem Token.isTag_eq_false_of_isMisc {token : Token} (h : token.isMisc = true)
    : token.isTag = false := by
  cases token <;> first | rfl | cases h

theorem Token.isTag_eq_false_of_isDoctype {token : Token} (h : token.isDoctype = true)
    : token.isTag = false := by
  cases token <;> first | rfl | cases h

/-- Of the tokens that are no tags, character data may not stand in front of the root. -/
theorem Token.isMisc_or_isDoctype_iff {token : Token} (h : token.isTag = false)
    : token.isMisc = true ∨ token.isDoctype = true ↔ token.isCharacterData = false := by
  cases token <;> simp_all [isTag, isMisc, isDoctype, isCharacterData]

/-- Of the tokens that are no tags, character data and document type declarations may not stand
behind the root. -/
theorem Token.isMisc_iff {token : Token} (h : token.isTag = false)
    : token.isMisc = true ↔ token.isCharacterData = false ∧ token.isDoctype = false := by
  cases token <;> simp_all [isTag, isMisc, isDoctype, isCharacterData]

/-- An element begins with a tag. -/
theorem IsElement.exists_head {root : List Token} (h : IsElement root)
    : ∃ tag rest, root = tag :: rest ∧ tag.isTag = true := by
  cases h with
  | empty content => exact ⟨_, _, rfl, rfl⟩
  | nested => exact ⟨_, _, rfl, rfl⟩

/-- An element ends with a tag. -/
theorem IsElement.exists_last {root : List Token} (h : IsElement root)
    : ∃ front tag, root = front ++ [tag] ∧ tag.isTag = true := by
  cases h with
  | empty content => exact ⟨[], _, rfl, rfl⟩
  | nested => exact ⟨_, _, (List.cons_append ..).symm, rfl⟩

/-- What stands in front of the first tag of a list of tokens is known by it. -/
theorem eq_of_append_tag_eq {before other : List Token} {tag otherTag : Token}
    {rest otherRest : List Token} (hbefore : ∀ token ∈ before, token.isTag = false)
    (hother : ∀ token ∈ other, token.isTag = false) (htag : tag.isTag = true)
    (hotherTag : otherTag.isTag = true)
    (h : before ++ tag :: rest = other ++ otherTag :: otherRest)
    : before = other := by
  have hfront {front rest : List Token} {tag : Token}
      (hfront : ∀ token ∈ front, token.isTag = false) (htag : tag.isTag = true)
      : (front ++ tag :: rest).takeWhile (fun token => !token.isTag) = front := by
    rw [List.takeWhile_append_of_pos fun token hmem => by rw [hfront token hmem]; rfl,
      List.takeWhile_cons_of_neg (by rw [htag]; exact Bool.false_ne_true), List.append_nil]
  rw [← hfront hbefore htag, h, hfront hother hotherTag]

/-- Of the ways to cut a list of tokens around an element, with no tags outside, there is one. -/
theorem IsElement.parts_unique {before root after before' root' after' : List Token}
    (hroot : IsElement root) (hroot' : IsElement root')
    (hbefore : ∀ token ∈ before, token.isTag = false)
    (hbefore' : ∀ token ∈ before', token.isTag = false)
    (hafter : ∀ token ∈ after, token.isTag = false)
    (hafter' : ∀ token ∈ after', token.isTag = false)
    (h : before ++ (root ++ after) = before' ++ (root' ++ after'))
    : before = before' ∧ root = root' ∧ after = after' := by
  have hbefores : before = before' := by
    obtain ⟨tag, rest, rfl, htag⟩ := hroot.exists_head
    obtain ⟨tag', rest', rfl, htag'⟩ := hroot'.exists_head
    exact eq_of_append_tag_eq hbefore hbefore' htag htag' h
  subst hbefores
  have hbehind := List.append_cancel_left h
  -- The part behind the last tag is the part in front of the first one in the reversed list.
  have hafters : after = after' := by
    obtain ⟨front, tag, rfl, htag⟩ := hroot.exists_last
    obtain ⟨front', tag', rfl, htag'⟩ := hroot'.exists_last
    have hreversed := congrArg List.reverse hbehind
    simp only [List.reverse_append, List.reverse_cons, List.nil_append, List.append_assoc,
      List.cons_append] at hreversed
    refine List.reverse_injective (eq_of_append_tag_eq ?_ ?_ htag htag' hreversed)
    · exact fun token hmem => hafter token (List.mem_reverse.1 hmem)
    · exact fun token hmem => hafter' token (List.mem_reverse.1 hmem)
  subst hafters
  exact ⟨rfl, List.append_cancel_right hbehind, rfl⟩

-----------------------------------------------------------------------------------------
-- Layouts
-----------------------------------------------------------------------------------------

/-- An event that may stand outside the root element: no tag, and no text but blanks. -/
structure Event.StandsOutside (event : Event) : Prop where
  noTag : event.token.isTag = false
  blank : isAllBlank event.text = true

instance (event : Event) : Decidable event.StandsOutside :=
  decidable_of_iff (event.token.isTag = false ∧ isAllBlank event.text = true)
    ⟨fun h => ⟨h.1, h.2⟩, fun h => ⟨h.noTag, h.blank⟩⟩

/-- A text of which the middle events are those of one element. -/
structure Layout (before root after : List Event) : Prop where
  element : IsElement (root.map Event.token)
  before : ∀ event ∈ before, event.StandsOutside
  after : ∀ event ∈ after, event.StandsOutside

namespace Outline

variable {outline last : Outline} {events : List Event}

/-- Behind the root element no event is a tag or has a text other than blanks. -/
theorem Passes.standsOutside {rootSpan : Span} (h : outline.Passes events last)
    (hopened : outline.opened = []) (hroot : outline.rootSpan = some rootSpan)
    : ∀ event ∈ events, event.StandsOutside := by
  induction h with
  | nil => exact nofun
  | @cons outline last event rest hevent hrest ih =>
      have hplace : ¬ (outline.opened ≠ [] ∨ outline.rootSpan = none) := by simp [hopened, hroot]
      cases hevent with
      | opening htoken hinside => exact absurd hinside hplace
      | empty htoken hinside => exact absurd hinside hplace
      | closing htoken hhead => cases hopened.symm.trans hhead
      | aside htag hblank =>
          rw [next_of_isTag_eq_false htag] at ih
          have hstands : event.StandsOutside := ⟨htag, hblank.resolve_left (absurd hopened)⟩
          exact List.forall_mem_cons.2 ⟨hstands, ih hopened hroot⟩

/-- Events that lead from the start of a text to the end of its root element and on have the layout
of a document, by induction on the events in front of the root tag.
-/
theorem Passes.exists_layout (h : outline.Passes events last) (hopened : outline.opened = [])
    (hnone : outline.rootSpan = none) (hlast : last.opened = []) (hroot : last.rootSpan ≠ none)
    : ∃ before root after, events = before ++ (root ++ after) ∧ Layout before root after := by
  induction h with
  | nil => exact absurd hnone hroot
  | @cons outline last event rest hevent hrest ih =>
      cases hevent with
      | opening htoken =>
          obtain ⟨rootSpan, hspan⟩ := exists_rootSpan_next (Or.inl htoken)
          obtain ⟨inner, closing, after, closingContent, middle, rfl, hinner, hclosing, hname,
              hmiddle, hmiddleRoot, hafter⟩ :=
            hrest.exists_endTag hlast (opened_next_startTag htoken) hspan
          refine ⟨[], event :: (inner ++ [closing]), after, by simp, ?_, nofun, ?_⟩
          · simp only [List.map_cons, List.map_append, List.map_nil, htoken, hclosing]
            exact .nested (String.ofList_injective hname) hinner
          · exact hafter.standsOutside (hmiddle.trans hopened) hmiddleRoot
      | @empty content htoken =>
          obtain ⟨rootSpan, hspan⟩ := exists_rootSpan_next (Or.inr htoken)
          refine ⟨[], [event], rest, rfl, ?_, nofun, ?_⟩
          · rw [List.map_singleton, htoken]
            exact .empty content
          · exact hrest.standsOutside ((opened_next_emptyTag htoken).trans hopened) hspan
      | closing htoken hhead => cases hopened.symm.trans hhead
      | aside htag hblank =>
          rw [next_of_isTag_eq_false htag] at ih
          have hstands : event.StandsOutside := ⟨htag, hblank.resolve_left (absurd hopened)⟩
          obtain ⟨before, root, after, rfl, helement, hbefore, hafter⟩ :=
            ih hopened hnone hlast hroot
          exact ⟨event :: before, root, after, rfl, helement,
            List.forall_mem_cons.2 ⟨hstands, hbefore⟩, hafter⟩

/-- Events that may stand outside the root element may stand anywhere. -/
theorem Passes.of_standsOutside (h : ∀ event ∈ events, event.StandsOutside)
    : outline.Passes events outline := by
  induction events with
  | nil => exact .nil
  | cons event rest ih =>
      obtain ⟨⟨htag, hblank⟩, hrest⟩ := List.forall_mem_cons.1 h
      refine .cons (.aside htag (Or.inr hblank)) ?_
      rw [next_of_isTag_eq_false htag]
      exact ih hrest

end Outline

-----------------------------------------------------------------------------------------
-- Whole texts
-----------------------------------------------------------------------------------------

theorem map_token_sourceEvents (source : String)
    : (sourceEvents source).map Event.token = (lexSource source).1.map Lexeme.token := by
  calc (sourceEvents source).map Event.token
    _ = ((sourceEvents source).map Event.lexeme).map Lexeme.token := List.map_map.symm
    _ = (lexSource source).1.map Lexeme.token := by rw [sourceEvents, map_lexeme_eventsFrom]

/-- A text has no problems exactly if its tokens end with it, have no problems one by one, and
have the layout of a document.
-/
theorem problemsOf_eq_nil_iff (source : String)
    : problemsOf source = []
      ↔ (∃ position, (lexSource source).2 = .complete position)
        ∧ (∀ event ∈ sourceEvents source, event.problems = [])
        ∧ ∃ before root after,
            sourceEvents source = before ++ (root ++ after) ∧ Layout before root after := by
  have hnone : problemsOf source = []
      ↔ fatalProblem? source = none ∧ ∀ event ∈ readEvents source, event.problems = [] := by
    rw [problemsOf, List.append_eq_nil_iff, List.flatMap_eq_nil_iff, Option.toList_eq_nil_iff,
      and_comm]
  rw [hnone]
  constructor
  · rintro ⟨hfatal, hclean⟩
    obtain ⟨last, hpasses, hend⟩ := Outline.reading_eq_none_iff.1 hfatal
    obtain ⟨hcomplete, hopened, hroot⟩ := Outline.problemAt?_eq_none_iff.1 hend
    have hread : readEvents source = sourceEvents source := Outline.reading_events_eq hfatal
    exact ⟨hcomplete, hread ▸ hclean, hpasses.exists_layout rfl rfl hopened hroot⟩
  · rintro ⟨hcomplete, hclean, before, root, after, hevents, helement, hbefore, hafter⟩
    obtain ⟨last, hpasses, hopened, hroot⟩ :
        ∃ last, ({} : Outline).Passes root last ∧ last.opened = [] ∧ last.rootSpan ≠ none :=
      Outline.Passes.of_isElement helement rfl
    have hall : ({} : Outline).Passes (sourceEvents source) last := by
      rw [hevents]
      exact (Outline.Passes.of_standsOutside hbefore).append
        (hpasses.append (Outline.Passes.of_standsOutside hafter))
    have hend := Outline.problemAt?_eq_none_iff.2 ⟨hcomplete, hopened, hroot⟩
    have hfatal : fatalProblem? source = none := Outline.reading_eq_none_iff.2 ⟨last, hall, hend⟩
    have hread : readEvents source = sourceEvents source := Outline.reading_events_eq hfatal
    exact ⟨hfatal, hread ▸ hclean⟩

namespace Layout

variable {before root after : List Event}

/-- The parts of a layout are those of an XML document exactly if there is no character data
outside the root, one document type declaration at most in front of it and none in it or behind.
-/
theorem xmlParts_iff (h : Layout before root after)
    : XmlParts (before.map Event.token) (root.map Event.token) (after.map Event.token)
      ↔ (∀ event ∈ before ++ after, event.token.isCharacterData = false)
        ∧ before.countP (fun event => event.token.isDoctype) ≤ 1
        ∧ ∀ event ∈ root ++ after, event.token.isDoctype = false := by
  have hbefore (event : Event) (hevent : event ∈ before) :=
    Token.isMisc_or_isDoctype_iff (h.before event hevent).noTag
  have hafter (event : Event) (hevent : event ∈ after) :=
    Token.isMisc_iff (h.after event hevent).noTag
  rw [List.forall_mem_append, List.forall_mem_append]
  constructor
  · rintro ⟨-, hprolog, hone, hinside, hepilog⟩
    rw [List.countP_map] at hone
    rw [List.forall_mem_map] at hprolog hinside hepilog
    refine ⟨⟨?_, ?_⟩, hone, hinside, ?_⟩
    · exact fun event hevent => (hbefore event hevent).1 (hprolog event hevent)
    · exact fun event hevent => ((hafter event hevent).1 (hepilog event hevent)).1
    · exact fun event hevent => ((hafter event hevent).1 (hepilog event hevent)).2
  · rintro ⟨⟨hdataBefore, hdataAfter⟩, hone, hinside, hbehind⟩
    refine ⟨h.element, ?_, ?_, List.forall_mem_map.2 hinside, ?_⟩
    · exact List.forall_mem_map.2 fun event hevent =>
        (hbefore event hevent).2 (hdataBefore event hevent)
    · rw [List.countP_map]
      exact hone
    · exact List.forall_mem_map.2 fun event hevent =>
        (hafter event hevent).2 ⟨hdataAfter event hevent, hbehind event hevent⟩

/-- A text with a layout has the shape of an XML document exactly if the parts of the layout are
those of one, since its tokens cannot be cut in another way. -/
theorem xmlShape_iff (h : Layout before root after)
    : XmlShape ((before ++ (root ++ after)).map Event.token)
      ↔ XmlParts (before.map Event.token) (root.map Event.token) (after.map Event.token) := by
  rw [List.map_append, List.map_append]
  constructor
  · rintro ⟨first, element, rest, hsplit, hparts⟩
    have hfirst : ∀ token ∈ first, token.isTag = false := fun token htoken =>
      (hparts.prolog token htoken).elim Token.isTag_eq_false_of_isMisc
        Token.isTag_eq_false_of_isDoctype
    have hrest : ∀ token ∈ rest, token.isTag = false := fun token htoken =>
      Token.isTag_eq_false_of_isMisc (hparts.epilog token htoken)
    obtain ⟨rfl, rfl, rfl⟩ := h.element.parts_unique hparts.element
      (List.forall_mem_map.2 fun event hevent => (h.before event hevent).noTag) hfirst
      (List.forall_mem_map.2 fun event hevent => (h.after event hevent).noTag) hrest hsplit
    exact hparts
  · exact fun hparts => ⟨_, _, _, rfl, hparts⟩

end Layout

/-- A text is accepted exactly if its tokens end with it, have no problems one by one, and have the
layout of a document: blanks in any form and document type declarations may stand anywhere outside
its tags.  Of the accepted texts those have the shape of an XML document which have no character
data outside the root but blanks of markup, one document type declaration at most in front of it,
and none in it or behind it.
-/
theorem exists_parse_eq_ok_iff_layout (source : String)
    : ((∃ document, parse source = .ok document)
        ↔ (∃ position, (lexSource source).2 = .complete position)
          ∧ (∀ event ∈ sourceEvents source, event.problems = [])
          ∧ ∃ before root after,
              sourceEvents source = before ++ (root ++ after) ∧ Layout before root after)
      ∧ ∀ before root after,
          sourceEvents source = before ++ (root ++ after)
          → Layout before root after
          → (XmlShape ((lexSource source).1.map Lexeme.token)
            ↔ (∀ event ∈ before ++ after, event.token.isCharacterData = false)
              ∧ before.countP (fun event => event.token.isDoctype) ≤ 1
              ∧ ∀ event ∈ root ++ after, event.token.isDoctype = false) := by
  refine ⟨(exists_parse_eq_ok_iff source).trans (problemsOf_eq_nil_iff source), ?_⟩
  intro before root after hevents hlayout
  rw [← map_token_sourceEvents, hevents]
  exact hlayout.xmlShape_iff.trans hlayout.xmlParts_iff

/-- A declaration and an element with an end of line behind it. -/
theorem exists_parse_eq_ok_iff_layout_of_declared
    : Layout [⟨[], .doctype "DOCTYPE a".toList, .between 0 12⟩]
          [⟨[], .emptyTag ['a'], .between 12 16⟩] [⟨[], .text '\n' [], .between 16 17⟩]
      ∧ XmlShape ((lexSource "<!DOCTYPE a><a/>\n").1.map Lexeme.token) := by
  have hevents : sourceEvents "<!DOCTYPE a><a/>\n"
      = [⟨[], .doctype "DOCTYPE a".toList, .between 0 12⟩]
        ++ ([⟨[], .emptyTag ['a'], .between 12 16⟩] ++ [⟨[], .text '\n' [], .between 16 17⟩]) := by
    decide +kernel
  have hlayout : Layout [⟨[], .doctype "DOCTYPE a".toList, .between 0 12⟩]
      [⟨[], .emptyTag ['a'], .between 12 16⟩] [⟨[], .text '\n' [], .between 16 17⟩] :=
    ⟨.empty ['a'], by decide +kernel, by decide +kernel⟩
  exact ⟨hlayout, ((exists_parse_eq_ok_iff_layout _).2 _ _ _ hevents hlayout).2 (by decide)⟩

/-- Not every accepted text has the shape of an XML document: a reference to a space may stand
behind the root element.
-/
theorem not_forall_parse_xmlShape
    : ¬ ∀ (source : String) (document : Document),
          parse source = .ok document
          → XmlShape ((lexSource source).1.map Lexeme.token) := by
  intro hall
  have hproblems : problemsOf "<a/>&#32;" = [] := by decide +kernel
  obtain ⟨document, hparse⟩ := (exists_parse_eq_ok_iff _).2 hproblems
  have hshape := hall _ document hparse
  have hevents : sourceEvents "<a/>&#32;"
      = [] ++ ([⟨[], .emptyTag ['a'], .between 0 4⟩]
        ++ [⟨[], .reference ['#', '3', '2'], .between 4 9⟩]) := by
    decide +kernel
  have hlayout : Layout [] [⟨[], .emptyTag ['a'], .between 0 4⟩]
      [⟨[], .reference ['#', '3', '2'], .between 4 9⟩] :=
    ⟨.empty ['a'], nofun, by decide +kernel⟩
  rw [← map_token_sourceEvents, hevents, hlayout.xmlShape_iff] at hshape
  have hmisc := hshape.epilog _ List.mem_cons_self
  cases hmisc

end StoryAtlas.Markup
