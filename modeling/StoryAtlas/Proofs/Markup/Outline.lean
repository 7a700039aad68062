import StoryAtlas.Proofs.Markup.DocumentOrder
import StoryAtlas.Proofs.Markup.TokenOrder

/-! The outline of a text.
What is wrong with a text can be told without its document: from the tokens, the entities known
at each of them, and the tags that are open there.  The problems behind which reading goes on
belong to the tokens one by one; the problem at which reading stops is that of a token which may
not stand where it does, or of the end of the text.
-/

namespace StoryAtlas.Markup

open StoryAtlas.Text

-----------------------------------------------------------------------------------------
-- Tokens as they are met
-----------------------------------------------------------------------------------------

/-- The entities known behind a token: a document type declaration replaces all others. -/
def Token.entitiesBehind (entities : Entities) : Token → Entities
  | doctype body => declaredEntities body
  | _ => entities

/-- A token with the entities known in front of it. -/
structure Event where
  entities : Entities
  lexeme : Lexeme
deriving DecidableEq

/-- The tokens of a text as they are met. -/
def eventsFrom (entities : Entities) : List Lexeme → List Event
  | [] => []
  | lexeme :: rest => ⟨entities, lexeme⟩ :: eventsFrom (lexeme.token.entitiesBehind entities) rest

theorem map_lexeme_eventsFrom (entities : Entities) (lexemes : List Lexeme)
    : (eventsFrom entities lexemes).map Event.lexeme = lexemes := by
  induction lexemes generalizing entities with
  | nil => rfl
  | cons lexeme rest ih => exact congrArg (lexeme :: ·) (ih _)

namespace Event

/-- The bytes of the token. -/
def span (event : Event) : Span :=
  event.lexeme.span

/-- The text that an event adds to an element.  Markup and unknown references add none. -/
def text (event : Event) : List Char :=
  match event.lexeme.token with
  | .text first others => normalizeLineBreaks (first :: others)
  | .cdata chars => normalizeLineBreaks chars
  | .reference name => (resolveReference? event.entities name).getD []
  | _ => []

/-- The problem of an attribute, if it is malformed or its value cannot be expanded. -/
def attributeProblem? (event : Event) : Except AttributeFault RawAttribute → Option Problem
  | .error cause => some (.malformedAttribute cause event.span)
  | .ok raw =>
      match expand (lookupEntity? event.entities) (normalizeValue raw.value) with
      | .ok _ => none
      | .error cause =>
          some (.unexpandableValue (String.ofList raw.key) cause event.span)

/-- The problems of an event behind which reading goes on: those of the attributes of a tag, in
order, or that of a reference without a meaning. -/
def problems (event : Event) : List Problem :=
  match event.lexeme.token with
  | .startTag content | .emptyTag content =>
      (attributesOf content).filterMap event.attributeProblem?
  | .reference name =>
      if (resolveReference? event.entities name).isSome then []
      else [.undefinedReference (String.ofList name) event.span]
  | _ => []

end Event

-----------------------------------------------------------------------------------------
-- Open tags
-----------------------------------------------------------------------------------------

/-- The name in an end tag, without the blanks behind it. -/
def endName (content : List Char) : List Char :=
  let trimmed := dropEndWhile isMarkupBlank content
  if trimmed.isEmpty then content else trimmed

/-- The tags that are open at some place of a text, innermost first, with the bytes of the root
tag and the number of elements so far. -/
structure Outline where
  rootSpan : Option Span := none
  opened : List OpenElement := []
  size : Nat := 0

namespace Outline

/-- Inside an element any tag may begin another one.  Outside there is one root only. -/
def secondRoot? (outline : Outline) (content : List Char) (span : Span) : Option Problem :=
  match outline.opened with
  | _ :: _ => none
  | [] => outline.rootSpan.map (.secondRoot (String.ofList (tagName content)) span)

/-- An end tag has the name of the innermost open element. -/
def wrongEnd? (outline : Outline) (content : List Char) (span : Span) : Option Problem :=
  let name := String.ofList (endName content)
  match outline.opened with
  | [] => some (.malformed (.unmatchedEnd name) span.start none)
  | element :: _ =>
      if element.tag = name then none
      else some (.malformed (.mismatchedEnd element.tag name) span.start (some element))

/-- Outside the root element only blanks may stand. -/
def strayText? (outline : Outline) (text : List Char) (span : Span) : Option Problem :=
  match outline.opened with
  | _ :: _ => none
  | [] =>
      if isAllBlank text then none
      else
        match outline.rootSpan with
        | some rootSpan => some (.textAfterRoot span rootSpan)
        | none => some (.malformed .textBeforeRoot span.start none)

/-- The problem of an event at which reading stops, since its token may not stand there. -/
def fatal? (outline : Outline) (event : Event) : Option Problem :=
  match event.lexeme.token with
  | .startTag content | .emptyTag content => outline.secondRoot? content event.span
  | .endTag content => outline.wrongEnd? content event.span
  | _ => outline.strayText? event.text event.span

/-- The problem of the end of a text, at which all elements are closed and there was a root. -/
def problemAt? (outline : Outline) : Ending → Option Problem
  | .broken cause position => some (.malformed cause position outline.opened.head?)
  | .complete position =>
      match outline.opened, outline.rootSpan with
      | element :: _, _ => some (.unclosedElement element)
      | [], none => some (.missingRoot position)
      | [], some _ => none

/-- The element of a tag. -/
def element (outline : Outline) (content : List Char) (span : Span) : OpenElement :=
  ⟨outline.size, String.ofList (tagName content), span⟩

/-- Counts the element of a tag, which is the root if there was none. -/
def count (outline : Outline) (span : Span) : Outline :=
  { outline with rootSpan := some (outline.rootSpan.getD span), size := outline.size + 1 }

/-- The outline behind a token that may stand there. -/
def next (outline : Outline) (lexeme : Lexeme) : Outline :=
  match lexeme.token with
  | .startTag content =>
      { outline.count lexeme.span with
        opened := outline.element content lexeme.span :: outline.opened }
  | .emptyTag _ => outline.count lexeme.span
  | .endTag _ => { outline with opened := outline.opened.tail }
  | _ => outline

/-- The events that are read, up to the one at which reading stops, and the problem that reading
ends with. -/
def reading (outline : Outline) (ending : Ending) : List Event → List Event × Option Problem
  | [] => ([], outline.problemAt? ending)
  | event :: rest =>
      match outline.fatal? event with
      | some problem => ([event], some problem)
      | none =>
          let (events, problem?) := (outline.next event.lexeme).reading ending rest
          (event :: events, problem?)

/-- The events that are read are the first ones. -/
theorem reading_prefix {outline : Outline} {ending : Ending} {events : List Event}
    : (outline.reading ending events).1 <+: events := by
  induction events generalizing outline with
  | nil => exact List.prefix_rfl
  | cons event rest ih =>
      unfold reading
      split
      · exact List.cons_prefix_cons.2 ⟨rfl, List.nil_prefix⟩
      · exact List.cons_prefix_cons.2 ⟨rfl, ih⟩

/-- All problems of the events to come, in the order in which they are met. -/
def problems (outline : Outline) (ending : Ending) (events : List Event) : List Problem :=
  let (events, problem?) := outline.reading ending events
  events.flatMap Event.problems ++ problem?.toList

end Outline

/-- The tokens of a source text as they are met. -/
def sourceEvents (source : String) : List Event :=
  eventsFrom [] (lexSource source).1

/-- The tokens of a source text stand in a row up to the place at which they end. -/
theorem inRow_sourceEvents (source : String)
    : ∃ first,
        InRow first ((sourceEvents source).map Event.span) (lexSource source).2.position := by
  obtain ⟨⟨first, hrow⟩, -⟩ := inRow_lexSource source
  have hspans : (sourceEvents source).map Event.span = (lexSource source).1.map Lexeme.span := by
    calc (sourceEvents source).map Event.span
      _ = ((sourceEvents source).map Event.lexeme).map Lexeme.span := List.map_map.symm
      _ = (lexSource source).1.map Lexeme.span := by rw [sourceEvents, map_lexeme_eventsFrom]
  exact ⟨first, hspans ▸ hrow⟩

/-- The events of a source text that are read, the one at which reading stops included. -/
def readEvents (source : String) : List Event :=
  (({} : Outline).reading (lexSource source).2 (sourceEvents source)).1

/-- The problem that reading a source text ends with, if it does not come to a good end. -/
def fatalProblem? (source : String) : Option Problem :=
  (({} : Outline).reading (lexSource source).2 (sourceEvents source)).2

/-- All problems of a source text, in the order in which they are met. -/
def problemsOf (source : String) : List Problem :=
  (readEvents source).flatMap Event.problems ++ (fatalProblem? source).toList

-----------------------------------------------------------------------------------------
-- Kinds of problems
-----------------------------------------------------------------------------------------

/-- The problems of a token behind which reading goes on. -/
inductive Recoverable (span : Span) : Problem → Prop
  | undefinedReference (name : String) : Recoverable span (.undefinedReference name span)
  | unexpandableValue (name : String) (cause : ExpansionFault)
      : Recoverable span (.unexpandableValue name cause span)
  | malformedAttribute (cause : AttributeFault) : Recoverable span (.malformedAttribute cause span)

/-- The problems of a token at which reading stops. -/
inductive Stopping (outline : Outline) (span : Span) : Problem → Prop
  | malformed (cause : SyntaxFault)
      : Stopping outline span (.malformed cause span.start outline.opened.head?)
  | secondRoot (tag : String) {rootSpan : Span} (hroot : outline.rootSpan = some rootSpan)
      : Stopping outline span (.secondRoot tag span rootSpan)
  | textAfterRoot {rootSpan : Span} (hroot : outline.rootSpan = some rootSpan)
      : Stopping outline span (.textAfterRoot span rootSpan)

/-- The problems of the end of a text. -/
inductive Final (outline : Outline) (ending : Ending) : Problem → Prop
  | malformed (cause : SyntaxFault)
      : Final outline ending (.malformed cause ending.position outline.opened.head?)
  | unclosedElement {element : OpenElement} (hopened : outline.opened.head? = some element)
      : Final outline ending (.unclosedElement element)
  | missingRoot : Final outline ending (.missingRoot ending.position)

theorem Event.recoverable_of_mem {event : Event} {problem : Problem}
    (h : problem ∈ event.problems)
    : Recoverable event.span problem := by
  unfold Event.problems at h
  split at h
  case h_1 | h_2 =>
    obtain ⟨entry, -, hentry⟩ := List.mem_filterMap.1 h
    cases entry with
    | error cause =>
        cases hentry
        exact .malformedAttribute cause
    | ok raw =>
        dsimp only [attributeProblem?] at hentry
        split at hentry <;> cases hentry
        exact .unexpandableValue _ _
  case h_3 =>
    split at h
    · cases h
    · cases List.mem_singleton.1 h
      exact .undefinedReference _
  case h_4 => cases h

theorem Outline.stopping_of_fatal? {outline : Outline} {event : Event} {problem : Problem}
    (h : outline.fatal? event = some problem)
    : Stopping outline event.span problem := by
  have hhead (cause : SyntaxFault) {enclosing : Option OpenElement}
      (hopened : outline.opened.head? = enclosing)
      : Stopping outline event.span
          (.malformed cause event.span.start enclosing) :=
    hopened ▸ .malformed cause
  unfold fatal? at h
  split at h
  case h_1 | h_2 =>
    unfold secondRoot? at h
    split at h
    · cases h
    · obtain ⟨rootSpan, hroot, rfl⟩ := Option.map_eq_some_iff.1 h
      exact .secondRoot _ hroot
  case h_3 =>
    unfold wrongEnd? at h
    dsimp only at h
    split at h
    · next hopened =>
        cases h
        exact hhead _ (by rw [hopened]; rfl)
    · next element others hopened =>
        split at h <;> cases h
        exact hhead _ (by rw [hopened]; rfl)
  case h_4 =>
    unfold strayText? at h
    split at h
    · cases h
    · next hopened =>
        split at h
        · cases h
        · split at h <;> cases h
          · next hroot => exact .textAfterRoot hroot
          · exact hhead _ (by rw [hopened]; rfl)

theorem Outline.final_of_problemAt? {outline : Outline} {ending : Ending} {problem : Problem}
    (h : outline.problemAt? ending = some problem)
    : Final outline ending problem := by
  cases ending with
  | broken cause position =>
      cases h
      exact .malformed cause
  | complete position =>
      dsimp only [problemAt?] at h
      split at h <;> cases h
      · next hopened => exact .unclosedElement (by rw [hopened]; rfl)
      · exact .missingRoot

-----------------------------------------------------------------------------------------
-- Steps
-----------------------------------------------------------------------------------------

/-- The outline of what a reader has read. -/
def Reader.outline (reader : Reader) : Outline where
  rootSpan := reader.root.map PartialDocument.rootSpan
  opened := reader.opened
  size := (reader.root.map fun root => root.document.size).getD 0

/-- What is known of a reader without its document. -/
structure Reader.Stands (reader : Reader) (outline : Outline) (entities : Entities)
    (problems : List Problem)
    : Prop where
  outline : reader.outline = outline
  entities : reader.entities = entities
  problems : reader.problems = problems

/-- An outcome that depends on a possible fatal problem: with one, it is the fault, behind the
problems before; without one, there is a result, which is good. -/
inductive Settles {α : Type} (before : List Problem) (good : α → Prop)
    : Option Problem → Except (List Problem) α → Prop
  | stop (problem : Problem) : Settles before good (some problem) (.error (before ++ [problem]))
  | goOn {result : α} (h : good result) : Settles before good none (.ok result)

theorem Settles.bind_ok {α β : Type} {before : List Problem} {good : α → Prop}
    {goodNext : β → Prop} {fatal? : Option Problem} {outcome : Except (List Problem) α}
    {next : α → β} (h : Settles before good fatal? outcome)
    (hnext : ∀ {result}, good result → goodNext (next result))
    : Settles before goodNext fatal? (outcome.bind fun result => .ok (next result)) := by
  cases h with
  | stop problem => exact .stop problem
  | goOn hgood => exact .goOn (hnext hgood)

/-- Blank text may stand anywhere. -/
theorem Outline.strayText?_of_isAllBlank {text : List Char} (h : isAllBlank text = true)
    (outline : Outline) (span : Span)
    : outline.strayText? text span = none := by
  unfold strayText?
  split
  · rfl
  · exact if_pos h

/-- The problems with the attributes of a tag are those of the attributes one by one. -/
theorem Event.readTag_problems (event : Event)
    (attributes : List (Except AttributeFault RawAttribute))
    : (Reader.readTag event.entities event.span attributes).2
      = attributes.filterMap event.attributeProblem? := by
  induction attributes with
  | nil => rfl
  | cons entry rest ih =>
      cases entry with
      | error cause => simp [Reader.readTag, attributeProblem?, ih]
      | ok raw =>
          simp only [Reader.readTag, Reader.attributeValue, attributeProblem?,
            List.filterMap_cons, ih]
          cases expand (lookupEntity? event.entities) (normalizeValue raw.value) <;> rfl

namespace Reader.InOrder

variable {reader : Reader}

/-- A tag stops reading as a second root, or its element is counted and its problems are noted. -/
theorem settles_addElement (h : reader.InOrder) (content : List Char) (span : Span)
    {problems : List Problem}
    (hproblems : (readTag reader.entities span (attributesOf content)).2 = problems)
    : Settles (reader.problems ++ problems)
        (fun added : Reader × OpenElement =>
          added.1.Stands (reader.outline.count span) reader.entities (reader.problems ++ problems)
          ∧ added.2 = reader.outline.element content span)
        (reader.outline.secondRoot? content span) (reader.addElement content span) := by
  subst hproblems
  obtain ⟨root?, opened, entities, before⟩ := reader
  cases root? with
  | none =>
      obtain rfl : opened = [] := h
      exact .goOn ⟨⟨rfl, rfl, rfl⟩, rfl⟩
  | some root =>
      cases opened with
      | nil => exact .stop _
      | cons parent others =>
          have hparent : parent.id < root.document.size := Document.GrowsAt.lt_size h
          refine .goOn ⟨⟨?_, rfl, rfl⟩, ?_⟩
          · exact congrArg (Outline.mk (some root.rootSpan) (parent :: others))
              (Document.size_addChild hparent)
          · exact congrArg (OpenElement.mk · _ span) Document.handle_addChild

/-- Text stops reading outside the root element if it is not blank, and no text changes the
outline. -/
theorem settles_addText (h : reader.InOrder) (text : List Char) (span : Span)
    : Settles reader.problems
        (fun next => next.Stands reader.outline reader.entities reader.problems)
        (reader.outline.strayText? text span) (reader.addText text span) := by
  obtain ⟨root?, opened, entities, before⟩ := reader
  cases opened with
  | cons element others =>
      cases root? with
      | none => exact absurd h (List.cons_ne_nil element others)
      | some root =>
          refine .goOn ⟨?_, rfl, rfl⟩
          exact congrArg (Outline.mk (some root.rootSpan) (element :: others))
            (Document.size_appendText _ _ _)
  | nil =>
      by_cases hblank : isAllBlank text = true
      · cases root? <;> simp only [Outline.strayText?, outline, Reader.addText, if_pos hblank]
        all_goals exact .goOn ⟨rfl, rfl, rfl⟩
      · cases root? <;> simp only [Outline.strayText?, outline, Reader.addText, if_neg hblank]
        all_goals exact .stop _

/-- An end tag stops reading if its name is wrong, or leaves the innermost element. -/
theorem settles_closeElement (reader : Reader) (content : List Char) (span : Span)
    : Settles reader.problems
        (fun next =>
          next.Stands { reader.outline with opened := reader.opened.tail } reader.entities
            reader.problems)
        (reader.outline.wrongEnd? content span) (reader.closeElement content span) := by
  obtain ⟨root?, opened, entities, before⟩ := reader
  cases opened with
  | nil => exact .stop _
  | cons element others =>
      change Settles _ _ (if element.tag = String.ofList (endName content) then _ else _)
        (if element.tag = String.ofList (endName content) then _ else _)
      by_cases hname : element.tag = String.ofList (endName content)
      · rw [if_pos hname, if_pos hname]
        exact .goOn ⟨rfl, rfl, rfl⟩
      · rw [if_neg hname, if_neg hname]
        exact .stop _

/-- A step notes the problems of its event and stops at the fatal one, if there is one. -/
theorem settles_step (h : reader.InOrder) (lexeme : Lexeme)
    : Settles (reader.problems ++ (Event.mk reader.entities lexeme).problems)
        (fun next =>
          next.Stands (reader.outline.next lexeme)
            (lexeme.token.entitiesBehind reader.entities)
            (reader.problems ++ (Event.mk reader.entities lexeme).problems))
        (reader.outline.fatal? ⟨reader.entities, lexeme⟩) (reader.step lexeme) := by
  obtain ⟨token, span⟩ := lexeme
  cases token with
  | startTag content =>
      have hproblems := Event.readTag_problems ⟨reader.entities, .startTag content, span⟩
        (attributesOf content)
      refine (h.settles_addElement content span hproblems).bind_ok ?_
      rintro ⟨next, element⟩ ⟨⟨houtline, hentities, hnoted⟩, rfl⟩
      have hopened : next.opened = reader.opened := congrArg Outline.opened houtline
      refine ⟨?_, hentities, hnoted⟩
      dsimp only [Outline.next]
      rw [← houtline, hopened]
      rfl
  | emptyTag content =>
      have hproblems := Event.readTag_problems ⟨reader.entities, .emptyTag content, span⟩
        (attributesOf content)
      exact (h.settles_addElement content span hproblems).bind_ok fun hadded => hadded.1
  | endTag content =>
      simp only [Event.problems, List.append_nil]
      exact settles_closeElement reader content span
  | text first others =>
      simp only [Event.problems, List.append_nil]
      exact h.settles_addText _ span
  | cdata chars =>
      simp only [Event.problems, List.append_nil]
      exact h.settles_addText _ span
  | reference name =>
      simp only [Event.problems, Outline.fatal?, Event.text, Reader.step]
      cases resolveReference? reader.entities name with
      | some text =>
          simp only [Option.isSome_some, if_true, List.append_nil]
          exact h.settles_addText _ span
      | none =>
          rw [Option.getD_none, Outline.strayText?_of_isAllBlank rfl]
          exact .goOn ⟨rfl, rfl, rfl⟩
  | doctype body =>
      simp only [Event.problems, List.append_nil, Outline.fatal?, Event.text]
      rw [Outline.strayText?_of_isAllBlank rfl]
      exact .goOn ⟨rfl, rfl, rfl⟩
  | comment body | instruction body =>
      simp only [Event.problems, List.append_nil, Outline.fatal?, Event.text]
      rw [Outline.strayText?_of_isAllBlank rfl]
      exact .goOn ⟨rfl, rfl, rfl⟩

end Reader.InOrder

-----------------------------------------------------------------------------------------
-- Whole texts
-----------------------------------------------------------------------------------------

/-- A document without problems, or exactly the given problems. -/
abbrev EndsWith (problems : List Problem) (outcome : Except (List Problem) Document) : Prop :=
  Meets (fun _ => problems = []) (fun found => found = problems ∧ problems ≠ []) outcome

namespace Reader

/-- The end of a text stops reading, or reading ends well if nothing was noted. -/
theorem endsWith_finish (reader : Reader) (ending : Ending)
    : EndsWith (reader.problems ++ (reader.outline.problemAt? ending).toList)
        (reader.finish ending) := by
  obtain ⟨root?, opened, entities, problems⟩ := reader
  cases ending with
  | broken cause position => exact .error ⟨rfl, List.concat_ne_nil _ _⟩
  | complete position =>
      cases opened with
      | cons element others => exact .error ⟨rfl, List.concat_ne_nil _ _⟩
      | nil =>
          cases root? with
          | none => exact .error ⟨rfl, List.concat_ne_nil _ _⟩
          | some root =>
              cases problems with
              | nil => exact .ok rfl
              | cons problem others =>
                  exact .error ⟨(List.append_nil _).symm, List.cons_ne_nil _ _⟩

/-- Reading what is left of a text ends with the problems noted before and those that the outline
tells, by induction on the tokens.
-/
theorem InOrder.endsWith_run {reader : Reader} (h : reader.InOrder) (lexemes : List Lexeme)
    (ending : Ending)
    : EndsWith
        (reader.problems ++ reader.outline.problems ending (eventsFrom reader.entities lexemes))
        ((lexemes.foldlM Reader.step reader).bind fun reader => reader.finish ending) := by
  induction lexemes generalizing reader with
  | nil => exact reader.endsWith_finish ending
  | cons lexeme rest ih =>
      have hsettles := h.settles_step lexeme
      rw [List.foldlM_cons, eventsFrom, Outline.problems, Outline.reading]
      generalize hfatal : reader.outline.fatal? ⟨reader.entities, lexeme⟩ = fatal?,
        hstep : reader.step lexeme = outcome at hsettles ⊢
      cases hsettles with
      | stop problem =>
          exact .error ⟨by simp, by simp⟩
      | @goOn next hnext =>
          obtain ⟨houtline, hentities, hnoted⟩ := hnext
          have hrest := ih (h.step hstep)
          rw [houtline, hentities, hnoted, List.append_assoc] at hrest
          change EndsWith _ ((rest.foldlM Reader.step next).bind fun reader => reader.finish ending)
          simpa [Outline.problems, List.append_assoc] using hrest

end Reader

/-- Reading a source text ends with its problems. -/
theorem endsWith_readSource (source : String) : EndsWith (problemsOf source) (readSource source) :=
  Reader.InOrder.endsWith_run Reader.inOrder_start (lexSource source).1 (lexSource source).2

/-- A text is accepted exactly if it has no problems. -/
theorem exists_parse_eq_ok_iff (source : String)
    : (∃ document, parse source = .ok document) ↔ problemsOf source = [] := by
  have hends := endsWith_readSource source
  unfold parse
  generalize readSource source = outcome at hends
  cases hends with
  | ok hnone => exact iff_of_true ⟨_, rfl⟩ hnone
  | error hfound => exact iff_of_false nofun hfound.2

/-- The diagnostics of a text that is not accepted are those of its problems. -/
theorem diagnostics_of_parse {source : String} {error : ParseError}
    (h : parse source = .error error)
    : problemsOf source ≠ []
      ∧ error.diagnostics = (problemsOf source).map Problem.diagnostic := by
  have hends := endsWith_readSource source
  unfold parse at h
  generalize readSource source = outcome at hends h
  cases hends with
  | ok => cases h
  | error hfound =>
      obtain ⟨rfl, hne⟩ := hfound
      obtain rfl := Except.error.inj h
      exact ⟨hne, rfl⟩

/-- A property of the error of a text shows that the text has an error. -/
theorem exists_parse_eq_error {α : Type} {source : String} {view : ParseError → α} {value : α}
    (h : ((parse source).mapError view).map Document.size = .error value)
    : ∃ error, parse source = .error error ∧ view error = value := by
  generalize parse source = outcome at h ⊢
  cases outcome with
  | ok => cases h
  | error error => exact ⟨error, rfl, Except.error.inj h⟩

end StoryAtlas.Markup
