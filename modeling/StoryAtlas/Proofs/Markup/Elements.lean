import StoryAtlas.Proofs.Markup.Outline

/-! Elements.
Whether tags stand in pairs is told by a grammar, from the tokens alone, and by the outline, from
the tags that are open.  Inside an element the outline lets pass what the grammar calls content,
and only that; and it lets pass an element where there is no root so far.
-/

namespace StoryAtlas.Markup

open StoryAtlas.Text

-----------------------------------------------------------------------------------------
-- The grammar
-----------------------------------------------------------------------------------------

def Token.isTag : Token → Bool
  | startTag _ | emptyTag _ | endTag _ => true
  | _ => false

/-- The content of an element: tags in pairs of one name with content between them, empty tags,
and any tokens that are no tags. -/
inductive Content : List Token → Prop
  | nil : Content []
  | other {token : Token} {rest : List Token} (htag : token.isTag = false) (hrest : Content rest)
      : Content (token :: rest)
  | empty (content : List Char) {rest : List Token} (hrest : Content rest)
      : Content (.emptyTag content :: rest)
  | nested {content closing : List Char} {inner rest : List Token}
      (hname : tagName content = endName closing) (hinner : Content inner) (hrest : Content rest)
      : Content (.startTag content :: (inner ++ .endTag closing :: rest))

/-- An empty tag, or content between two tags of one name. -/
inductive IsElement : List Token → Prop
  | empty (content : List Char) : IsElement [.emptyTag content]
  | nested {content closing : List Char} {inner : List Token}
      (hname : tagName content = endName closing) (hinner : Content inner)
      : IsElement (.startTag content :: (inner ++ [.endTag closing]))

def Event.token (event : Event) : Token :=
  event.lexeme.token

/-- An event that does not stop reading: a tag that begins the root or an element inside another
one, the end tag of the innermost open element, or a token that is no tag and has no text but
blanks where no element is open.
-/
inductive Outline.Admits (outline : Outline) (event : Event) : Prop
  | opening {content : List Char} (htoken : event.token = .startTag content)
      (hplace : outline.opened ≠ [] ∨ outline.rootSpan = none)
      : Admits outline event
  | empty {content : List Char} (htoken : event.token = .emptyTag content)
      (hplace : outline.opened ≠ [] ∨ outline.rootSpan = none)
      : Admits outline event
  | closing {content : List Char} {element : OpenElement} {others : List OpenElement}
      (htoken : event.token = .endTag content) (hopened : outline.opened = element :: others)
      (hname : element.tag = String.ofList (endName content))
      : Admits outline event
  | aside (htag : event.token.isTag = false)
      (hblank : outline.opened ≠ [] ∨ isAllBlank event.text = true)
      : Admits outline event

/-- Events of which none stops reading, with the outlines in front of them and behind. -/
inductive Outline.Passes : Outline → List Event → Outline → Prop
  | nil {outline : Outline} : Passes outline [] outline
  | cons {outline last : Outline} {event : Event} {rest : List Event}
      (hevent : outline.Admits event) (hrest : Passes (outline.next event.lexeme) rest last)
      : Passes outline (event :: rest) last

-----------------------------------------------------------------------------------------
-- Steps of an outline
-----------------------------------------------------------------------------------------

namespace Outline

variable {outline last : Outline} {event : Event} {events : List Event}

theorem secondRoot?_eq_none_iff {content : List Char} {span : Span}
    : outline.secondRoot? content span = none ↔ outline.opened ≠ [] ∨ outline.rootSpan = none := by
  obtain ⟨rootSpan, opened, size⟩ := outline
  cases opened <;> cases rootSpan <;> simp [secondRoot?]

theorem wrongEnd?_eq_none_iff {content : List Char} {span : Span}
    : outline.wrongEnd? content span = none
      ↔ ∃ element others,
          outline.opened = element :: others
          ∧ element.tag = String.ofList (endName content) := by
  obtain ⟨rootSpan, opened, size⟩ := outline
  cases opened <;> simp [wrongEnd?]

theorem strayText?_eq_none_iff {text : List Char} {span : Span}
    : outline.strayText? text span = none ↔ outline.opened ≠ [] ∨ isAllBlank text = true := by
  obtain ⟨rootSpan, opened, size⟩ := outline
  cases opened with
  | cons => simp [strayText?]
  | nil =>
      by_cases hblank : isAllBlank text = true
      · simp [strayText?, hblank]
      · cases rootSpan <;> simp [strayText?, hblank]

theorem fatal?_of_opens {content : List Char}
    (h : event.token = .startTag content ∨ event.token = .emptyTag content)
    : outline.fatal? event = outline.secondRoot? content event.span := by
  rcases h with htoken | htoken
  all_goals
    change event.lexeme.token = _ at htoken
    simp only [fatal?, htoken]

theorem fatal?_endTag {content : List Char} (h : event.token = .endTag content)
    : outline.fatal? event = outline.wrongEnd? content event.span := by
  change event.lexeme.token = _ at h
  simp only [fatal?, h]

/-- A token that is no tag stops reading by its text alone. -/
theorem fatal?_of_isTag_eq_false (h : event.token.isTag = false)
    : outline.fatal? event = outline.strayText? event.text event.span := by
  unfold fatal?
  split
  case h_4 => rfl
  all_goals next htoken => simp [Event.token, htoken, Token.isTag] at h

/-- Reading goes on exactly at the events that an outline admits. -/
theorem fatal?_eq_none_iff : outline.fatal? event = none ↔ outline.Admits event := by
  constructor
  · intro h
    cases htoken : event.token with
    | startTag content =>
        rw [fatal?_of_opens (Or.inl htoken)] at h
        exact .opening htoken (secondRoot?_eq_none_iff.1 h)
    | emptyTag content =>
        rw [fatal?_of_opens (Or.inr htoken)] at h
        exact .empty htoken (secondRoot?_eq_none_iff.1 h)
    | endTag content =>
        rw [fatal?_endTag htoken] at h
        obtain ⟨element, others, hopened, hname⟩ := wrongEnd?_eq_none_iff.1 h
        exact .closing htoken hopened hname
    | _ =>
        have htag : event.token.isTag = false := by rw [htoken]; rfl
        rw [fatal?_of_isTag_eq_false htag] at h
        exact .aside htag (strayText?_eq_none_iff.1 h)
  · intro h
    cases h with
    | opening htoken hplace =>
        rw [fatal?_of_opens (Or.inl htoken)]
        exact secondRoot?_eq_none_iff.2 hplace
    | empty htoken hplace =>
        rw [fatal?_of_opens (Or.inr htoken)]
        exact secondRoot?_eq_none_iff.2 hplace
    | closing htoken hopened hname =>
        rw [fatal?_endTag htoken]
        exact wrongEnd?_eq_none_iff.2 ⟨_, _, hopened, hname⟩
    | aside htag hblank =>
        rw [fatal?_of_isTag_eq_false htag]
        exact strayText?_eq_none_iff.2 hblank

theorem next_of_isTag_eq_false (h : event.token.isTag = false)
    : outline.next event.lexeme = outline := by
  unfold next
  split
  case h_4 => rfl
  all_goals next htoken => simp [Event.token, htoken, Token.isTag] at h

theorem problemAt?_eq_none_iff {ending : Ending}
    : outline.problemAt? ending = none
      ↔ (∃ position, ending = .complete position)
        ∧ outline.opened = [] ∧ outline.rootSpan ≠ none := by
  obtain ⟨rootSpan, opened, size⟩ := outline
  cases ending <;> cases opened <;> cases rootSpan <;> simp [problemAt?]

/-- Reading comes to a good end exactly if it passes all events and the end. -/
theorem reading_eq_none_iff {ending : Ending}
    : (outline.reading ending events).2 = none
      ↔ ∃ last, outline.Passes events last ∧ last.problemAt? ending = none := by
  induction events generalizing outline with
  | nil =>
      refine ⟨fun h => ⟨outline, .nil, h⟩, ?_⟩
      rintro ⟨last, hpasses, hend⟩
      cases hpasses
      exact hend
  | cons event rest ih =>
      unfold reading
      split
      · next problem hfatal =>
          refine iff_of_false nofun ?_
          rintro ⟨last, hpasses, -⟩
          cases hpasses with
          | cons hevent => simp [fatal?_eq_none_iff.2 hevent] at hfatal
      · next hfatal =>
          refine ih.trans ⟨?_, ?_⟩
          · rintro ⟨last, hpasses, hend⟩
            exact ⟨last, .cons (fatal?_eq_none_iff.1 hfatal) hpasses, hend⟩
          · rintro ⟨last, hpasses, hend⟩
            cases hpasses with
            | cons _ hrest => exact ⟨last, hrest, hend⟩

/-- All events are read if none of them stops reading. -/
theorem reading_events_eq {ending : Ending} (h : (outline.reading ending events).2 = none)
    : (outline.reading ending events).1 = events := by
  induction events generalizing outline with
  | nil => rfl
  | cons event rest ih =>
      unfold reading at h ⊢
      split at h
      · cases h
      · exact congrArg (event :: ·) (ih h)

theorem opened_next_startTag {content : List Char} (h : event.token = .startTag content)
    : (outline.next event.lexeme).opened
      = outline.element content event.span :: outline.opened := by
  change event.lexeme.token = _ at h
  simp only [next, h]
  rfl

theorem opened_next_emptyTag {content : List Char} (h : event.token = .emptyTag content)
    : (outline.next event.lexeme).opened = outline.opened := by
  change event.lexeme.token = _ at h
  simp only [next, h]
  rfl

theorem opened_next_endTag {content : List Char} (h : event.token = .endTag content)
    : (outline.next event.lexeme).opened = outline.opened.tail := by
  change event.lexeme.token = _ at h
  simp only [next, h]

/-- The root tag stays the same. -/
theorem rootSpan_next {rootSpan : Span} (h : outline.rootSpan = some rootSpan) (lexeme : Lexeme)
    : (outline.next lexeme).rootSpan = some rootSpan := by
  unfold next
  split <;> simp [count, h]

/-- Behind a tag that begins an element there is a root. -/
theorem exists_rootSpan_next {content : List Char}
    (h : event.token = .startTag content ∨ event.token = .emptyTag content)
    : ∃ rootSpan, (outline.next event.lexeme).rootSpan = some rootSpan := by
  rcases h with htoken | htoken
  all_goals
    change event.lexeme.token = _ at htoken
    simp [next, htoken, count]

theorem Passes.rootSpan_eq {rootSpan : Span} (h : outline.Passes events last)
    (hroot : outline.rootSpan = some rootSpan)
    : last.rootSpan = some rootSpan := by
  induction h with
  | nil => exact hroot
  | cons _ _ ih => exact ih (rootSpan_next hroot _)

theorem Passes.append {middle : Outline} {others : List Event} (h : outline.Passes events middle)
    (hothers : middle.Passes others last)
    : outline.Passes (events ++ others) last := by
  induction h with
  | nil => exact hothers
  | cons hevent _ ih => exact .cons hevent (ih hothers)

-----------------------------------------------------------------------------------------
-- From events to the grammar
-----------------------------------------------------------------------------------------

/-- Events that lead out of the innermost open element begin with its content and end tag, by
induction on their number: the end tag of an inner element splits them twice.
-/
theorem Passes.exists_endTag {element : OpenElement} {others : List OpenElement} {rootSpan : Span}
    (h : outline.Passes events last) (hlast : last.opened = [])
    (hopened : outline.opened = element :: others) (hroot : outline.rootSpan = some rootSpan)
    : ∃ (inner : List Event) (closing : Event) (rest : List Event) (content : List Char)
        (middle : Outline),
        events = inner ++ closing :: rest
        ∧ Content (inner.map Event.token)
        ∧ closing.token = .endTag content
        ∧ element.tag = String.ofList (endName content)
        ∧ middle.opened = others
        ∧ middle.rootSpan = some rootSpan
        ∧ middle.Passes rest last := by
  induction hlength : events.length using Nat.strong_induction_on
    generalizing outline events element others with
  | _ length ih =>
      subst hlength
      cases h with
      | nil => cases hopened.symm.trans hlast
      | @cons _ _ event rest hevent hrest =>
          have hnextRoot := rootSpan_next hroot event.lexeme
          cases hevent with
          | opening htoken =>
              obtain ⟨inner, closing, behind, closingContent, middle, rfl, hinner, hclosing, hname,
                  hmiddle, hmiddleRoot, hbehind⟩ :=
                ih rest.length (Nat.lt_succ_self _) hrest (opened_next_startTag htoken) hnextRoot
                  rfl
              obtain ⟨later, final, rest, finalContent, outer, rfl, hlater, hfinal⟩ :=
                ih behind.length (by simp only [List.length_cons, List.length_append]; omega)
                  hbehind (hmiddle.trans hopened) hmiddleRoot rfl
              refine ⟨event :: (inner ++ closing :: later), final, rest, finalContent, outer,
                by simp, ?_, hfinal⟩
              simp only [List.map_cons, List.map_append, htoken, hclosing]
              exact .nested (String.ofList_injective hname) hinner hlater
          | @empty content htoken =>
              obtain ⟨inner, closing, behind, closingContent, middle, rfl, hinner, hclosing⟩ :=
                ih rest.length (Nat.lt_succ_self _) hrest
                  ((opened_next_emptyTag htoken).trans hopened) hnextRoot rfl
              refine ⟨event :: inner, closing, behind, closingContent, middle, rfl, ?_, hclosing⟩
              rw [List.map_cons, htoken]
              exact .empty content hinner
          | @closing content innermost _ htoken hhead hname =>
              obtain ⟨rfl, rfl⟩ := List.cons.inj (hopened.symm.trans hhead)
              refine ⟨[], event, rest, content, _, rfl, .nil, htoken, hname, ?_, hnextRoot, hrest⟩
              rw [opened_next_endTag htoken, hopened, List.tail_cons]
          | aside htag =>
              rw [next_of_isTag_eq_false htag] at hrest
              obtain ⟨inner, closing, behind, closingContent, middle, rfl, hinner, hclosing⟩ :=
                ih rest.length (Nat.lt_succ_self _) hrest hopened hroot rfl
              exact ⟨event :: inner, closing, behind, closingContent, middle, rfl,
                .other htag hinner, hclosing⟩

-----------------------------------------------------------------------------------------
-- From the grammar to events
-----------------------------------------------------------------------------------------

/-- Content passes between two tags of one name. -/
theorem Passes.of_pair {opening closing : Event} {content closingContent : List Char}
    {inner : List Event} (hplace : outline.opened ≠ [] ∨ outline.rootSpan = none)
    (hopening : opening.token = .startTag content)
    (hclosing : closing.token = .endTag closingContent)
    (hname : tagName content = endName closingContent)
    (hinner
      : ∀ outline : Outline,
          outline.opened ≠ []
          → ∃ last, outline.Passes inner last ∧ last.opened = outline.opened)
    : ∃ last,
        outline.Passes (opening :: (inner ++ [closing])) last
        ∧ last.opened = outline.opened := by
  have hopened : (outline.next opening.lexeme).opened = _ := opened_next_startTag hopening
  obtain ⟨middle, hpasses, hmiddle⟩ := hinner (outline.next opening.lexeme) (by simp [hopened])
  have hend : middle.Admits closing :=
    .closing hclosing (hmiddle.trans hopened) (congrArg String.ofList hname)
  refine ⟨middle.next closing.lexeme, ?_, ?_⟩
  · exact .cons (.opening hopening hplace) (hpasses.append (.cons hend .nil))
  · rw [opened_next_endTag hclosing, hmiddle, hopened, List.tail_cons]

/-- Content passes inside an element, by induction on its grammar. -/
theorem Passes.of_content {tokens : List Token} (h : Content tokens)
    (hevents : events.map Event.token = tokens) (hopened : outline.opened ≠ [])
    : ∃ last, outline.Passes events last ∧ last.opened = outline.opened := by
  induction h generalizing outline events with
  | nil =>
      obtain rfl := List.map_eq_nil_iff.1 hevents
      exact ⟨outline, .nil, rfl⟩
  | other htag hcontent ih =>
      obtain ⟨event, rest, rfl, rfl, hrest⟩ := List.map_eq_cons_iff.1 hevents
      obtain ⟨last, hpasses, hlast⟩ := ih hrest hopened
      refine ⟨last, .cons (.aside htag (Or.inl hopened)) ?_, hlast⟩
      rw [next_of_isTag_eq_false htag]
      exact hpasses
  | empty content hcontent ih =>
      obtain ⟨event, rest, rfl, htoken, hrest⟩ := List.map_eq_cons_iff.1 hevents
      have hnext : (outline.next event.lexeme).opened = _ := opened_next_emptyTag htoken
      obtain ⟨last, hpasses, hlast⟩ := ih hrest (hnext ▸ hopened)
      exact ⟨last, .cons (.empty htoken (Or.inl hopened)) hpasses, hlast.trans hnext⟩
  | nested hname hinner hcontent ihInner ihRest =>
      obtain ⟨opening, behind, rfl, hopening, hbehind⟩ := List.map_eq_cons_iff.1 hevents
      obtain ⟨inner, behind, rfl, hmapped, hbehind⟩ := List.map_eq_append_iff.1 hbehind
      obtain ⟨closing, rest, rfl, hclosing, hrest⟩ := List.map_eq_cons_iff.1 hbehind
      obtain ⟨middle, hpair, hmiddle⟩ := Passes.of_pair (Or.inl hopened) hopening hclosing hname
        fun outline hinside => ihInner hmapped hinside
      obtain ⟨last, hpasses, hlast⟩ := ihRest hrest (hmiddle ▸ hopened)
      refine ⟨last, ?_, hlast.trans hmiddle⟩
      simpa using hpair.append hpasses

/-- An element passes where there is no root so far. -/
theorem Passes.of_isElement (h : IsElement (events.map Event.token))
    (hnone : outline.rootSpan = none)
    : ∃ last, outline.Passes events last ∧ last.opened = outline.opened ∧ last.rootSpan ≠ none := by
  generalize htokens : events.map Event.token = tokens at h
  cases h with
  | empty content =>
      obtain ⟨event, rest, rfl, htoken, hrest⟩ := List.map_eq_cons_iff.1 htokens
      obtain rfl := List.map_eq_nil_iff.1 hrest
      obtain ⟨rootSpan, hspan⟩ : ∃ rootSpan, (outline.next event.lexeme).rootSpan = some rootSpan :=
        exists_rootSpan_next (Or.inr htoken)
      exact ⟨_, .cons (.empty htoken (Or.inr hnone)) .nil, opened_next_emptyTag htoken,
        hspan ▸ Option.some_ne_none _⟩
  | nested hname hinner =>
      obtain ⟨opening, behind, rfl, hopening, hbehind⟩ := List.map_eq_cons_iff.1 htokens
      obtain ⟨inner, behind, rfl, hmapped, hbehind⟩ := List.map_eq_append_iff.1 hbehind
      obtain ⟨closing, rest, rfl, hclosing, hrest⟩ := List.map_eq_cons_iff.1 hbehind
      obtain rfl := List.map_eq_nil_iff.1 hrest
      obtain ⟨rootSpan, hspan⟩ :
          ∃ rootSpan, (outline.next opening.lexeme).rootSpan = some rootSpan :=
        exists_rootSpan_next (Or.inl hopening)
      obtain ⟨last, hpasses, hlast⟩ := Passes.of_pair (Or.inr hnone) hopening hclosing hname
        fun outline hinside => Passes.of_content hinner hmapped hinside
      refine ⟨last, hpasses, hlast, ?_⟩
      cases hpasses with
      | cons _ hbehind => exact hbehind.rootSpan_eq hspan ▸ Option.some_ne_none _

end Outline

end StoryAtlas.Markup
