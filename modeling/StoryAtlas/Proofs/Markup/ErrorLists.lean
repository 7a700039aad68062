import StoryAtlas.Proofs.Markup.Outline

/-! The list of errors of a text.
Reading goes on behind a problem with a reference or an attribute and stops at any other, so of
the diagnostics only the last one can be of another kind.  None is lost on the way: those that do
not stop reading are the problems of all events up to the one at which reading stops.
-/

namespace StoryAtlas

/-- Whether reading goes on behind a problem with this code. -/
def ErrorCode.isRecoverable : ErrorCode → Bool
  | undefinedEntity | malformedAttribute => true
  | _ => false

namespace Markup

-----------------------------------------------------------------------------------------
-- Kinds of problems
-----------------------------------------------------------------------------------------

theorem Problem.isRecoverable_code (problem : Problem)
    : problem.diagnostic.code.isRecoverable = problem.isRecoverable := by
  cases problem <;> rfl

theorem Recoverable.isRecoverable {span : Span} {problem : Problem} (h : Recoverable span problem)
    : problem.isRecoverable = true := by
  cases h <;> rfl

theorem Stopping.isRecoverable {outline : Outline} {span : Span} {problem : Problem}
    (h : Stopping outline span problem)
    : problem.isRecoverable = false := by
  cases h <;> rfl

theorem Final.isRecoverable {outline : Outline} {ending : Ending} {problem : Problem}
    (h : Final outline ending problem)
    : problem.isRecoverable = false := by
  cases h <;> rfl

/-- Reading ends with a problem that is fatal at an event or at the end, by induction on the
events.
-/
theorem Outline.isRecoverable_of_reading {outline : Outline} {ending : Ending}
    {events : List Event} {problem : Problem}
    (h : (outline.reading ending events).2 = some problem)
    : problem.isRecoverable = false := by
  induction events generalizing outline with
  | nil => exact (final_of_problemAt? h).isRecoverable
  | cons event rest ih =>
      unfold reading at h
      split at h
      · next found hfatal =>
          cases h
          exact (stopping_of_fatal? hfatal).isRecoverable
      · exact ih h

-----------------------------------------------------------------------------------------
-- Diagnostics
-----------------------------------------------------------------------------------------

/-- The diagnostics of a source text that has problems. -/
structure ErrorList (source : String) (diagnostics : List Diagnostic) : Prop where
  nonempty : diagnostics ≠ []
  /-- Those of all events that are read, and that of the problem that ends reading. -/
  complete : diagnostics = (problemsOf source).map Problem.diagnostic
  /-- The recoverable ones are those of the events that are read, in order. -/
  recoverable
    : (diagnostics.filter fun diagnostic => diagnostic.code.isRecoverable)
      = (readEvents source).flatMap fun event => event.problems.map Problem.diagnostic
  /-- Any other one is the last. -/
  final : ∀ diagnostic ∈ diagnostics.dropLast, diagnostic.code.isRecoverable = true
  once
    : ∀ code,
        code.isRecoverable = false
        → (diagnostics.countP fun diagnostic => diagnostic.code = code) ≤ 1

section

variable {source : String} {problem : Problem}

/-- The problems of the events that are read do not stop reading. -/
theorem isRecoverable_of_mem_flatMap (h : problem ∈ (readEvents source).flatMap Event.problems)
    : problem.diagnostic.code.isRecoverable = true := by
  obtain ⟨event, -, hproblem⟩ := List.mem_flatMap.1 h
  exact problem.isRecoverable_code.trans (Event.recoverable_of_mem hproblem).isRecoverable

/-- The problem that reading ends with does. -/
theorem isRecoverable_of_fatalProblem? (h : fatalProblem? source = some problem)
    : problem.diagnostic.code.isRecoverable = false :=
  problem.isRecoverable_code.trans (Outline.isRecoverable_of_reading h)

/-- Every problem but the last is one of the events that are read. -/
theorem mem_flatMap_of_mem_dropLast (h : problem ∈ (problemsOf source).dropLast)
    : problem ∈ (readEvents source).flatMap Event.problems := by
  unfold problemsOf at h
  cases hfatal : fatalProblem? source with
  | none =>
      rw [hfatal, Option.toList_none, List.append_nil] at h
      exact List.dropLast_subset _ h
  | some last =>
      rw [hfatal, Option.toList_some, List.dropLast_concat] at h
      exact h

end

/-- The problems of a source text, if there are any, are a list of errors. -/
theorem errorList_problemsOf {source : String} (h : problemsOf source ≠ [])
    : ErrorList source ((problemsOf source).map Problem.diagnostic) where
  nonempty := by simpa using h
  complete := rfl
  recoverable := by
    have hmet
        : (((readEvents source).flatMap Event.problems).map Problem.diagnostic).filter
              (fun diagnostic => diagnostic.code.isRecoverable)
          = ((readEvents source).flatMap Event.problems).map Problem.diagnostic := by
      apply List.filter_eq_self.2
      intro diagnostic hmem
      obtain ⟨problem, hproblem, rfl⟩ := List.mem_map.1 hmem
      exact isRecoverable_of_mem_flatMap hproblem
    have hlast
        : ((fatalProblem? source).toList.map Problem.diagnostic).filter
              (fun diagnostic => diagnostic.code.isRecoverable)
          = [] := by
      apply List.filter_eq_nil_iff.2
      intro diagnostic hmem
      obtain ⟨problem, hproblem, rfl⟩ := List.mem_map.1 hmem
      rw [isRecoverable_of_fatalProblem? (Option.mem_toList.1 hproblem)]
      exact Bool.false_ne_true
    rw [problemsOf, List.map_append, List.filter_append, hmet, hlast, List.append_nil,
      List.map_flatMap]
  final := by
    intro diagnostic hmem
    rw [← List.map_dropLast] at hmem
    obtain ⟨problem, hproblem, rfl⟩ := List.mem_map.1 hmem
    exact isRecoverable_of_mem_flatMap (mem_flatMap_of_mem_dropLast hproblem)
  once := by
    intro code hcode
    have hmet
        : (((readEvents source).flatMap Event.problems).map Problem.diagnostic).countP
              (fun diagnostic => diagnostic.code = code)
          = 0 := by
      apply List.countP_eq_zero.2
      intro diagnostic hmem
      obtain ⟨problem, hproblem, rfl⟩ := List.mem_map.1 hmem
      intro hsame
      have hrecoverable := isRecoverable_of_mem_flatMap hproblem
      rw [of_decide_eq_true hsame, hcode] at hrecoverable
      exact Bool.false_ne_true hrecoverable
    rw [problemsOf, List.map_append, List.countP_append, hmet, Nat.zero_add]
    apply Nat.le_trans List.countP_le_length
    rw [List.length_map]
    cases fatalProblem? source <;> simp

/-- A text is accepted exactly if it has no problems, and otherwise its errors are all of them. -/
theorem errorList_of_parse (source : String)
    : ((∃ document, parse source = .ok document) ↔ problemsOf source = [])
      ∧ ∀ error, parse source = .error error → ErrorList source error.diagnostics := by
  refine ⟨exists_parse_eq_ok_iff source, ?_⟩
  intro error h
  obtain ⟨hne, hdiagnostics⟩ := diagnostics_of_parse h
  rw [hdiagnostics]
  exact errorList_problemsOf hne

/-- An unknown reference, three faulty attributes in one tag, another unknown reference, and an
end tag with the wrong name. -/
theorem errorList_of_parse_of_wrong_end
    : ∃ error,
        parse "<a>&x;<b c='1' c='2' d='&y;' e/>&z;</b>" = .error error
        ∧ error.diagnostics.map Diagnostic.code
          = [.undefinedEntity, .malformedAttribute, .undefinedEntity, .malformedAttribute,
            .undefinedEntity, .malformed]
        ∧ ErrorList "<a>&x;<b c='1' c='2' d='&y;' e/>&z;</b>" error.diagnostics := by
  have hcodes
      : ((parse "<a>&x;<b c='1' c='2' d='&y;' e/>&z;</b>").mapError fun error =>
            error.diagnostics.map Diagnostic.code).map Document.size
        = .error [.undefinedEntity, .malformedAttribute, .undefinedEntity, .malformedAttribute,
            .undefinedEntity, .malformed] := by
    decide +kernel
  obtain ⟨error, h, hfound⟩ := exists_parse_eq_error hcodes
  exact ⟨error, h, hfound, (errorList_of_parse _).2 error h⟩

end Markup

end StoryAtlas
