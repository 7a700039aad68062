import StoryAtlas.Proofs.Markup.Outline

/-! Diagnostics in source order.
Problems are met from the start of a text to its end, and a problem is shown where it is met.
Only an element that is never closed is met at the end of the text and shown at its start tag, so
it comes behind the problems inside it although it is shown in front of them.
-/

namespace StoryAtlas.Markup

-----------------------------------------------------------------------------------------
-- Where problems are shown
-----------------------------------------------------------------------------------------

/-- The span of the primary label of a problem. -/
def Problem.place : Problem → Span
  | malformed _ offset _ => .point offset
  | unclosedElement element => element.span
  | undefinedReference _ span => span
  | unexpandableValue _ _ span => span
  | malformedAttribute _ span => span
  | missingRoot offset => .point offset
  | secondRoot _ span _ => span
  | textAfterRoot span _ => span

theorem Problem.primarySpan?_diagnostic (problem : Problem)
    : problem.diagnostic.primarySpan? = some problem.place := by
  cases problem <;> rfl

theorem Recoverable.place_eq {span : Span} {problem : Problem} (h : Recoverable span problem)
    : problem.place = span := by
  cases h <;> rfl

theorem Stopping.start_place {outline : Outline} {span : Span} {problem : Problem}
    (h : Stopping outline span problem)
    : problem.place.start = span.start := by
  cases h <;> rfl

-----------------------------------------------------------------------------------------
-- Events in a row
-----------------------------------------------------------------------------------------

namespace Outline

variable {outline : Outline} {ending : Ending} {events : List Event}

theorem mem_opened_next {lexeme : Lexeme} {element : OpenElement}
    (h : element ∈ (outline.next lexeme).opened)
    : element ∈ outline.opened ∨ element.span = lexeme.span := by
  unfold next at h
  split at h
  · rcases List.mem_cons.1 h with rfl | hold
    · exact Or.inr rfl
    · exact Or.inl hold
  · exact Or.inl h
  · exact Or.inl (List.mem_of_mem_tail h)
  · exact Or.inl h

/-- An element that is never closed was open before or has its tag among the events that are
read, by induction on the events.
-/
theorem unclosed_of_reading {element : OpenElement}
    (h : (outline.reading ending events).2 = some (.unclosedElement element))
    : element ∈ outline.opened
      ∨ ∃ event ∈ (outline.reading ending events).1, event.span = element.span := by
  induction events generalizing outline with
  | nil =>
      cases final_of_problemAt? h with
      | unclosedElement hopened => exact Or.inl (List.mem_of_mem_head? hopened)
  | cons event rest ih =>
      unfold reading at h ⊢
      split at h
      · next found hfatal =>
          cases h
          nomatch stopping_of_fatal? hfatal
      · next hnext =>
          rcases ih h with hopened | ⟨later, hlater, hspan⟩
          · rcases mem_opened_next hopened with hold | hspan
            · exact Or.inl hold
            · exact Or.inr ⟨event, List.mem_cons_self, hspan.symm⟩
          · exact Or.inr ⟨later, List.mem_cons_of_mem event hlater, hspan⟩

/-- Any other problem that ends reading is shown behind the starts of all events that are read,
by induction on the events.
-/
theorem start_le_of_reading {first : Nat} {problem : Problem}
    (hrow : InRow first (events.map Event.span) ending.position)
    (h : (outline.reading ending events).2 = some problem)
    (hclosed : ∀ element, problem ≠ .unclosedElement element)
    : first ≤ problem.place.start
      ∧ ∀ event ∈ (outline.reading ending events).1, event.span.start ≤ problem.place.start := by
  induction events generalizing outline first with
  | nil =>
      refine ⟨?_, nofun⟩
      cases final_of_problemAt? h with
      | malformed cause => exact hrow.le
      | unclosedElement hopened => exact absurd rfl (hclosed _)
      | missingRoot => exact hrow.le
  | cons event rest ih =>
      cases hrow with
      | cons hstart hbytes hrest =>
          unfold reading at h ⊢
          split at h
          · next found hfatal =>
              cases h
              have hplace : problem.place.start = event.span.start :=
                (stopping_of_fatal? hfatal).start_place
              refine ⟨by omega, fun other hother => ?_⟩
              rw [List.mem_singleton.1 hother, hplace]
          · next hnext =>
              obtain ⟨hfirst, hall⟩ := ih hrest h
              exact ⟨by omega, List.forall_mem_cons.2 ⟨by omega, hall⟩⟩

end Outline

section

variable {source : String}

/-- The events that are read stand in a row. -/
theorem exists_inRow_readEvents (source : String)
    : ∃ first last, InRow first ((readEvents source).map Event.span) last := by
  obtain ⟨first, hrow⟩ := inRow_sourceEvents source
  exact ⟨first, _, hrow.of_prefix (Outline.reading_prefix.map Event.span)⟩

/-- The problems of the events that are read are shown in their order. -/
theorem pairwise_readEvents (source : String)
    : ((readEvents source).flatMap Event.problems).Pairwise fun problem later =>
        problem.place.start ≤ later.place.start := by
  obtain ⟨first, last, hrow⟩ := exists_inRow_readEvents source
  have hplace {event : Event} {problem : Problem} (h : problem ∈ event.problems)
      : problem.place = event.span :=
    (Event.recoverable_of_mem h).place_eq
  refine List.pairwise_flatMap.2 ⟨fun event _ => ?_, ?_⟩
  · apply List.pairwise_of_forall_mem_list
    intro problem hproblem later hlater
    rw [hplace hproblem, hplace hlater]
  · refine (List.pairwise_map.1 hrow.pairwise).imp ?_
    intro event next hstop problem hproblem later hlater
    rw [hplace hproblem, hplace hlater]
    exact Nat.le_trans event.span.ordered hstop

/-- An event that is read begins behind the tag of an element that is never closed or not behind
its start, since this tag is one of the events.
-/
theorem start_le_iff_of_unclosed {element : OpenElement} {event : Event}
    (h : fatalProblem? source = some (.unclosedElement element))
    (hevent : event ∈ readEvents source)
    : event.span.start ≤ element.span.start ↔ ¬ element.span.stop ≤ event.span.start := by
  obtain ⟨first, last, hrow⟩ := exists_inRow_readEvents source
  obtain ⟨opening, hopening, hspan⟩ :
      ∃ opening ∈ readEvents source, opening.span = element.span :=
    (Outline.unclosed_of_reading h).resolve_left List.not_mem_nil
  have hbounds := hrow.bounds_of_mem (List.mem_map_of_mem hopening)
  have hordered := event.span.ordered
  rw [← hspan]
  rcases hrow.eq_or_apart (List.mem_map_of_mem hevent) (List.mem_map_of_mem hopening)
    with hsame | hbefore | hbehind
  · rw [hsame]
    omega
  · omega
  · omega

end

-----------------------------------------------------------------------------------------
-- Diagnostics
-----------------------------------------------------------------------------------------

/-- Diagnostics whose primary labels begin one behind the other. -/
def InSourceOrder (diagnostics : List Diagnostic) : Prop :=
  (diagnostics.filterMap Diagnostic.primarySpan?).Pairwise fun span later =>
    span.start ≤ later.start

theorem inSourceOrder_map_iff {problems : List Problem}
    : InSourceOrder (problems.map Problem.diagnostic)
      ↔ problems.Pairwise fun problem later => problem.place.start ≤ later.place.start := by
  have hplaces : (problems.map Problem.diagnostic).filterMap Diagnostic.primarySpan?
      = problems.map Problem.place := by
    rw [List.filterMap_map, ← List.filterMap_eq_map]
    congr 1
    funext problem
    exact problem.primarySpan?_diagnostic
  rw [InSourceOrder, hplaces, List.pairwise_map]

/-- The problems of a source text are shown in their order, unless the text ends in an element
behind whose start tag there is another problem.
-/
theorem pairwise_problemsOf_iff (source : String)
    : (problemsOf source).Pairwise (fun problem later => problem.place.start ≤ later.place.start)
      ↔ ∀ element,
          fatalProblem? source = some (.unclosedElement element)
          → ∀ event ∈ readEvents source,
              element.span.stop ≤ event.span.start → event.problems = [] := by
  rw [problemsOf, List.pairwise_append]
  constructor
  · rintro ⟨-, -, hcross⟩ element hfatal event hevent hbehind
    apply List.eq_nil_iff_forall_not_mem.2
    intro problem hproblem
    have horder : problem.place.start ≤ element.span.start :=
      hcross problem (List.mem_flatMap.2 ⟨event, hevent, hproblem⟩) (.unclosedElement element)
        (by rw [hfatal]; exact List.mem_singleton_self _)
    rw [(Event.recoverable_of_mem hproblem).place_eq] at horder
    exact (start_le_iff_of_unclosed hfatal hevent).1 horder hbehind
  · intro hclean
    refine ⟨pairwise_readEvents source, ?_, ?_⟩
    · cases fatalProblem? source <;> simp
    · intro problem hproblem last hlast
      obtain ⟨event, hevent, hproblem⟩ := List.mem_flatMap.1 hproblem
      have hfatal := Option.mem_toList.1 hlast
      rw [(Event.recoverable_of_mem hproblem).place_eq]
      cases last with
      | unclosedElement element =>
          apply (start_le_iff_of_unclosed hfatal hevent).2
          intro hbehind
          rw [hclean element hfatal event hevent hbehind] at hproblem
          cases hproblem
      | _ =>
          obtain ⟨first, hrow⟩ := inRow_sourceEvents source
          exact (Outline.start_le_of_reading hrow hfatal nofun).2 event hevent

/-- The problems of a source text but the last one are shown in their order. -/
theorem pairwise_dropLast_problemsOf (source : String)
    : (problemsOf source).dropLast.Pairwise fun problem later =>
        problem.place.start ≤ later.place.start := by
  have hread := pairwise_readEvents source
  unfold problemsOf
  cases fatalProblem? source with
  | none =>
      rw [Option.toList_none, List.append_nil]
      exact hread.sublist (List.dropLast_sublist _)
  | some last =>
      rw [Option.toList_some, List.dropLast_concat]
      exact hread

/-- Every diagnostic of a text has a primary label, and all but the last are in source order.  The
last one is too, unless it is that of an element that is never closed and there is another problem
behind its tag.
-/
theorem inSourceOrder_iff_of_parse {source : String} {error : ParseError}
    (h : parse source = .error error)
    : (∀ diagnostic ∈ error.diagnostics, ∃ span, diagnostic.primarySpan? = some span)
      ∧ InSourceOrder error.diagnostics.dropLast
      ∧ (InSourceOrder error.diagnostics
        ↔ ∀ element,
            fatalProblem? source = some (.unclosedElement element)
            → ∀ event ∈ readEvents source,
                element.span.stop ≤ event.span.start → event.problems = []) := by
  obtain ⟨-, hdiagnostics⟩ := diagnostics_of_parse h
  rw [hdiagnostics, ← List.map_dropLast]
  refine ⟨?_, ?_, ?_⟩
  · intro diagnostic hmem
    obtain ⟨problem, -, rfl⟩ := List.mem_map.1 hmem
    exact ⟨problem.place, problem.primarySpan?_diagnostic⟩
  · exact inSourceOrder_map_iff.2 (pairwise_dropLast_problemsOf source)
  · exact inSourceOrder_map_iff.trans (pairwise_problemsOf_iff source)

/-- Unknown references in front of an element that is never closed and in its tag. -/
theorem inSourceOrder_iff_of_parse_of_clean_content
    : ∃ error,
        parse "&x;<a b='&y;'>" = .error error
        ∧ error.diagnostics.filterMap Diagnostic.primarySpan?
          = [.between 0 3, .between 3 14, .between 3 14]
        ∧ fatalProblem? "&x;<a b='&y;'>" = some (.unclosedElement ⟨0, "a", .between 3 14⟩)
        ∧ ∀ event ∈ readEvents "&x;<a b='&y;'>", 14 ≤ event.span.start → event.problems = [] := by
  have hspans
      : ((parse "&x;<a b='&y;'>").mapError fun error =>
            error.diagnostics.filterMap Diagnostic.primarySpan?).map Document.size
        = .error [.between 0 3, .between 3 14, .between 3 14] := by
    decide +kernel
  have hfatal
      : fatalProblem? "&x;<a b='&y;'>" = some (.unclosedElement ⟨0, "a", .between 3 14⟩) := by
    decide +kernel
  obtain ⟨error, h, hfound⟩ := exists_parse_eq_error hspans
  have horder : InSourceOrder error.diagnostics := by
    rw [InSourceOrder, hfound]
    decide
  exact ⟨error, h, hfound, hfatal, (inSourceOrder_iff_of_parse h).2.2.1 horder _ hfatal⟩

/-- Not all diagnostics are in source order: an unknown reference comes in front of the element
around it, which is never closed.
-/
theorem not_forall_parse_inSourceOrder
    : ¬ ∀ (source : String) (error : ParseError),
          parse source = .error error → InSourceOrder error.diagnostics := by
  intro hall
  have hspans
      : ((parse "<a>&x;").mapError fun error =>
            error.diagnostics.filterMap Diagnostic.primarySpan?).map Document.size
        = .error [.between 3 6, .between 0 3] := by
    decide +kernel
  obtain ⟨error, h, hfound⟩ := exists_parse_eq_error hspans
  have horder := hall _ error h
  rw [InSourceOrder, hfound] at horder
  revert horder
  decide

end StoryAtlas.Markup
