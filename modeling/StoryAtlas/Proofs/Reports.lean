import StoryAtlas.Proofs.Markup.Outline
import StoryAtlas.Report

/-! Ranges of labels in reports.
A report cuts the labels of its diagnostic to the source, whatever their ranges are, and keeps
everything else.  The diagnostics that reading a text ends with have labels inside it, so that
there is nothing to cut.
-/

namespace StoryAtlas

-----------------------------------------------------------------------------------------
-- Labels inside the text
-----------------------------------------------------------------------------------------

namespace Markup

/-- The labels of a problem end within so many bytes. -/
def Problem.Within (size : Nat) (problem : Problem) : Prop :=
  ∀ label ∈ problem.diagnostic.labels, label.span.stop ≤ size

/-- The tags that an outline refers to end within so many bytes. -/
structure Outline.Within (size : Nat) (outline : Outline) : Prop where
  root : ∀ span, outline.rootSpan = some span → span.stop ≤ size
  opened : ∀ element ∈ outline.opened, element.span.stop ≤ size

section

variable {size : Nat} {outline : Outline} {span : Span} {ending : Ending} {problem : Problem}

theorem Recoverable.within (h : Recoverable span problem) (hspan : span.stop ≤ size)
    : problem.Within size := by
  cases h <;> exact List.forall_mem_singleton.2 hspan

/-- Wrong markup is shown at its place and at the innermost open element. -/
theorem Outline.Within.malformed (h : outline.Within size) (cause : SyntaxFault) {offset : Nat}
    (hoffset : offset ≤ size)
    : (Problem.malformed cause offset outline.opened.head?).Within size := by
  refine List.forall_mem_cons.2 ⟨hoffset, ?_⟩
  intro label hlabel
  obtain ⟨element, hhead, rfl⟩ := Option.map_eq_some_iff.1 (Option.mem_toList.1 hlabel)
  exact h.opened element (List.mem_of_mem_head? hhead)

theorem Stopping.within (h : Stopping outline span problem) (houtline : outline.Within size)
    (hspan : span.stop ≤ size)
    : problem.Within size := by
  cases h with
  | malformed cause => exact houtline.malformed cause (Nat.le_trans span.ordered hspan)
  | secondRoot tag hroot | textAfterRoot hroot =>
      exact List.forall_mem_cons.2
        ⟨hspan, List.forall_mem_singleton.2 (houtline.root _ hroot)⟩

theorem Final.within (h : Final outline ending problem) (houtline : outline.Within size)
    (hending : ending.position ≤ size)
    : problem.Within size := by
  cases h with
  | malformed cause => exact houtline.malformed cause hending
  | unclosedElement hopened =>
      exact List.forall_mem_singleton.2 (houtline.opened _ (List.mem_of_mem_head? hopened))
  | missingRoot => exact List.forall_mem_singleton.2 hending

namespace Outline

theorem Within.start (size : Nat) : ({} : Outline).Within size where
  root := by
    intro span hspan
    cases hspan
  opened := by
    intro element helement
    cases helement

theorem Within.count (h : outline.Within size) (hspan : span.stop ≤ size)
    : (outline.count span).Within size := by
  refine ⟨?_, h.opened⟩
  intro root hroot
  obtain rfl := Option.some.inj hroot
  cases hbefore : outline.rootSpan with
  | none => exact hspan
  | some rootSpan => exact h.root rootSpan hbefore

theorem Within.next (h : outline.Within size) {lexeme : Lexeme} (hspan : lexeme.span.stop ≤ size)
    : (outline.next lexeme).Within size := by
  unfold Outline.next
  split
  · exact ⟨(h.count hspan).root, List.forall_mem_cons.2 ⟨hspan, h.opened⟩⟩
  · exact h.count hspan
  · exact ⟨h.root, fun element helement => h.opened element (List.mem_of_mem_tail helement)⟩
  · exact h

/-- The problem that reading ends with has its labels in the text if the events and the end are
in it, by induction on the events.
-/
theorem Within.of_reading {events : List Event} (houtline : outline.Within size)
    (hevents : ∀ event ∈ events, event.span.stop ≤ size) (hending : ending.position ≤ size)
    (h : (outline.reading ending events).2 = some problem)
    : problem.Within size := by
  induction events generalizing outline with
  | nil => exact (final_of_problemAt? h).within houtline hending
  | cons event rest ih =>
      obtain ⟨hevent, hrest⟩ := List.forall_mem_cons.1 hevents
      unfold reading at h
      split at h
      · next found hfatal =>
          cases h
          exact (stopping_of_fatal? hfatal).within houtline hevent
      · exact ih (houtline.next hevent) hrest h

end Outline

end

/-- The problems of a source text have their labels in it. -/
theorem within_of_mem_problemsOf {source : String} {problem : Problem}
    (h : problem ∈ problemsOf source)
    : problem.Within source.utf8ByteSize := by
  obtain ⟨first, hrow⟩ := inRow_sourceEvents source
  have hend : (lexSource source).2.position ≤ source.utf8ByteSize := (inRow_lexSource source).2
  have hevents : ∀ event ∈ sourceEvents source, event.span.stop ≤ source.utf8ByteSize := by
    intro event hevent
    have hbounds := hrow.bounds_of_mem (List.mem_map_of_mem hevent)
    exact Nat.le_trans hbounds.2.2 hend
  rcases List.mem_append.1 h with hread | hfatal
  · obtain ⟨event, hevent, hproblem⟩ := List.mem_flatMap.1 hread
    have hmem : event ∈ sourceEvents source := Outline.reading_prefix.subset hevent
    exact (Event.recoverable_of_mem hproblem).within (hevents event hmem)
  · exact (Outline.Within.start _).of_reading hevents hend (Option.mem_toList.1 hfatal)

end Markup

-----------------------------------------------------------------------------------------
-- Reports
-----------------------------------------------------------------------------------------

/-- What is shown of a label differs from it only in the ends of its range, to which the same cut is
applied.
-/
structure Label.ShownBy (cut : Nat → Nat) (label : Label) (shown : Annotation) : Prop where
  primary : shown.primary = true ↔ label.kind = .primary
  message : shown.message = label.message
  start : shown.offset = cut label.span.start
  stop : shown.offset + shown.length = cut label.span.stop

/-- A report shows a diagnostic of a source: its message, code and help, and its labels in order. -/
structure Diagnostic.ShownBy (source : String) (cut : Nat → Nat) (diagnostic : Diagnostic)
    (report : Report)
    : Prop where
  message : report.message = diagnostic.message
  code : report.code = diagnostic.code.name
  help : report.help = diagnostic.help
  source : report.source = some source
  labels : List.Forall₂ (Label.ShownBy cut) diagnostic.labels report.annotations

/-- The range of a label is cut at both ends, also if it begins behind the source. -/
theorem Label.shownBy_ofLabel (size : Nat) (label : Label)
    : label.ShownBy (min · size) (.ofLabel size label) where
  primary := decide_eq_true_iff
  message := rfl
  start := rfl
  stop := by
    have hordered := label.span.ordered
    change min label.span.start size
        + min (label.span.stop - label.span.start) (size - min label.span.start size)
      = min label.span.stop size
    omega

/-- Spans that end behind the source, or begin there. -/
example
    : (.ofLabel 10 ⟨.primary, .between 8 20, "end"⟩ : Annotation) = ⟨true, 8, 2, "end"⟩
      ∧ (.ofLabel 10 ⟨.context, .point 50, "behind"⟩ : Annotation)
        = ⟨false, 10, 0, "behind"⟩ := by
  decide

/-- Nothing is cut from a label in the source. -/
theorem Label.ShownBy.uncut {size : Nat} {label : Label} {shown : Annotation}
    (h : label.ShownBy (min · size) shown) (hstop : label.span.stop ≤ size)
    : label.ShownBy id shown where
  primary := h.primary
  message := h.message
  start := h.start.trans (Nat.min_eq_left (Nat.le_trans label.span.ordered hstop))
  stop := h.stop.trans (Nat.min_eq_left hstop)

/-- The reports of a parse error show its diagnostics, in order, if they show the labels. -/
theorem ParseError.forall₂_shownBy {source : String} {cut : Nat → Nat} {error : ParseError}
    (h
      : ∀ diagnostic ∈ error.diagnostics,
          ∀ label ∈ diagnostic.labels,
            label.ShownBy cut (.ofLabel source.utf8ByteSize label))
    : List.Forall₂ (Diagnostic.ShownBy source cut) error.diagnostics
        (Report.ofFailure (.parse error source)) := by
  refine List.forall₂_map_right_iff.2 (List.forall₂_same.2 ?_)
  intro diagnostic hdiagnostic
  refine ⟨rfl, rfl, rfl, rfl, ?_⟩
  exact List.forall₂_map_right_iff.2 (List.forall₂_same.2 (h diagnostic hdiagnostic))

/-- A parse error with any spans has one report for each diagnostic, in order, with the labels cut
to the source.  Where it is the error of that source, its labels lie in it and the reports show
them as they are.
-/
theorem forall₂_shownBy_ofFailure (source : String)
    : (∀ error : ParseError,
        List.Forall₂ (Diagnostic.ShownBy source (min · source.utf8ByteSize)) error.diagnostics
          (Report.ofFailure (.parse error source)))
      ∧ ∀ error : ParseError,
          Markup.parse source = .error error
          → (∀ diagnostic ∈ error.diagnostics,
              ∀ label ∈ diagnostic.labels,
                label.span.start ≤ label.span.stop ∧ label.span.stop ≤ source.utf8ByteSize)
            ∧ List.Forall₂ (Diagnostic.ShownBy source id) error.diagnostics
                (Report.ofFailure (.parse error source)) := by
  constructor
  · intro error
    exact error.forall₂_shownBy fun _ _ label _ => label.shownBy_ofLabel _
  · intro error h
    have hwithin : ∀ diagnostic ∈ error.diagnostics,
        ∀ label ∈ diagnostic.labels, label.span.stop ≤ source.utf8ByteSize := by
      rw [(Markup.diagnostics_of_parse h).2]
      refine List.forall_mem_map.2 fun problem hproblem => ?_
      exact Markup.within_of_mem_problemsOf hproblem
    constructor
    · intro diagnostic hdiagnostic label hlabel
      exact ⟨label.span.ordered, hwithin diagnostic hdiagnostic label hlabel⟩
    · apply error.forall₂_shownBy
      intro diagnostic hdiagnostic label hlabel
      exact (label.shownBy_ofLabel _).uncut (hwithin diagnostic hdiagnostic label hlabel)

/-- A second root element, with a label on it and one on the first. -/
theorem forall₂_shownBy_ofFailure_of_second_root
    : ∃ error,
        Markup.parse "<a/><b/>" = .error error
        ∧ error.diagnostics.map (fun diagnostic => diagnostic.labels.map Label.span)
          = [[.between 4 8, .between 0 4]]
        ∧ List.Forall₂ (Diagnostic.ShownBy "<a/><b/>" id) error.diagnostics
            (Report.ofFailure (.parse error "<a/><b/>")) := by
  have hspans
      : ((Markup.parse "<a/><b/>").mapError fun error =>
            error.diagnostics.map fun diagnostic => diagnostic.labels.map Label.span).map
          Document.size
        = .error [[.between 4 8, .between 0 4]] := by
    decide +kernel
  obtain ⟨error, h, hfound⟩ := Markup.exists_parse_eq_error hspans
  exact ⟨error, h, hfound, ((forall₂_shownBy_ofFailure "<a/><b/>").2 error h).2⟩

end StoryAtlas
