import Mathlib.Data.List.Forall2

/-! Outcomes with a result.
A chain of steps has a result only if each of its steps has one, which the next step goes on with.
What all results and all faults of the steps satisfy, those of the chain do.  Two chains are alike
if they are step by step.
-/

namespace StoryAtlas

variable {ε α β : Type}

theorem exists_of_isOk {outcome : Except ε α} (h : outcome.isOk = true)
    : ∃ result, outcome = .ok result := by
  cases outcome with
  | error fault => cases h
  | ok result => exact ⟨result, rfl⟩

theorem exists_of_bind_eq_ok {outcome : Except ε α} {next : α → Except ε β} {result : β}
    (h : outcome.bind next = .ok result)
    : ∃ middle, outcome = .ok middle ∧ next middle = .ok result := by
  cases outcome with
  | error fault => cases h
  | ok middle => exact ⟨middle, rfl, h⟩

theorem map_map {γ : Type} (outcome : Except ε α) (first : α → β) (second : β → γ)
    : (outcome.map first).map second = outcome.map fun result => second (first result) := by
  cases outcome <;> rfl

theorem toOption_map (outcome : Except ε α) (f : α → β)
    : (outcome.map f).toOption = outcome.toOption.map f := by
  cases outcome <;> rfl

section MapError

variable {ε' : Type}

@[simp]
theorem mapError_ok (result : α) (wrap : ε → ε')
    : (Except.ok result : Except ε α).mapError wrap = .ok result :=
  rfl

@[simp]
theorem mapError_error (fault : ε) (wrap : ε → ε')
    : (Except.error fault : Except ε α).mapError wrap = .error (wrap fault) :=
  rfl

theorem mapError_eq_ok_iff {outcome : Except ε α} {wrap : ε → ε'} {result : α}
    : outcome.mapError wrap = .ok result ↔ outcome = .ok result := by
  cases outcome with
  | error fault => rw [mapError_error]; simp
  | ok value => rw [mapError_ok]; simp

end MapError

/-- What a step keeps is kept by a whole run of steps that has a result, by induction on the run.
-/
theorem foldlM_induction {State Item : Type} {step : State → Item → Except ε State}
    {motive : State → Prop}
    (keeps : ∀ {state next item}, motive state → step state item = .ok next → motive next)
    {items : List Item} {state last : State} (h : motive state)
    (hrun : items.foldlM step state = .ok last)
    : motive last := by
  induction items generalizing state with
  | nil => exact Except.ok.inj hrun ▸ h
  | cons item items ih =>
      rw [List.foldlM_cons] at hrun
      obtain ⟨next, hstep, hrest⟩ := exists_of_bind_eq_ok hrun
      exact ih (keeps h hstep) hrest

/-- A result with one property or a fault with another. -/
inductive Meets (good : α → Prop) (bad : ε → Prop) : Except ε α → Prop
  | ok {result : α} (h : good result) : Meets good bad (.ok result)
  | error {fault : ε} (h : bad fault) : Meets good bad (.error fault)

namespace Meets

variable {good : α → Prop} {bad : ε → Prop} {outcome : Except ε α}

theorem bind {goodNext : β → Prop} {next : α → Except ε β} (h : Meets good bad outcome)
    (hnext : ∀ {result}, good result → Meets goodNext bad (next result))
    : Meets goodNext bad (outcome.bind next) := by
  cases h with
  | ok hgood => exact hnext hgood
  | error hbad => exact .error hbad

/-- What every step keeps or faults with is kept or faulted with by the run, by induction on the
items.
-/
theorem foldlM {Item : Type} {step : α → Item → Except ε α} {items : List Item} {state : α}
    (keeps : ∀ item ∈ items, ∀ {state}, good state → Meets good bad (step state item))
    (h : good state)
    : Meets good bad (items.foldlM step state) := by
  induction items generalizing state with
  | nil => exact .ok h
  | cons item items ih =>
      rw [List.foldlM_cons]
      exact (keeps item List.mem_cons_self h).bind fun hnext =>
        ih (fun other hother => keeps other (List.mem_cons_of_mem item hother)) hnext

end Meets

/-- Two outcomes that both have results, which are related, or both have none. -/
inductive Alike {ε' : Type} (rel : α → β → Prop) : Except ε α → Except ε' β → Prop
  | ok {first : α} {second : β} (h : rel first second) : Alike rel (.ok first) (.ok second)
  | error (fault : ε) (other : ε') : Alike rel (.error fault) (.error other)

namespace Alike

variable {ε' γ δ : Type} {rel : α → β → Prop} {relNext : γ → δ → Prop} {first : Except ε α}
  {second : Except ε' β}

theorem mono {weaker : α → β → Prop} (h : Alike rel first second)
    (hweaker : ∀ {a b}, rel a b → weaker a b)
    : Alike weaker first second := by
  cases h with
  | ok hrel => exact .ok (hweaker hrel)
  | error fault other => exact .error fault other

/-- Outcomes that are alike go on alike. -/
theorem bind {next : α → Except ε γ} {otherNext : β → Except ε' δ} (h : Alike rel first second)
    (hnext : ∀ {a b}, rel a b → Alike relNext (next a) (otherNext b))
    : Alike relNext (first.bind next) (second.bind otherNext) := by
  cases h with
  | ok hrel => exact hnext hrel
  | error fault other => exact .error fault other

theorem map {change : α → γ} {otherChange : β → δ} (h : Alike rel first second)
    (hchange : ∀ {a b}, rel a b → relNext (change a) (otherChange b))
    : Alike relNext (first.map change) (second.map otherChange) := by
  cases h with
  | ok hrel => exact .ok (hchange hrel)
  | error fault other => exact .error fault other

theorem mapError {ζ ζ' : Type} {wrap : ε → ζ} {otherWrap : ε' → ζ'} (h : Alike rel first second)
    : Alike rel (first.mapError wrap) (second.mapError otherWrap) := by
  cases h with
  | ok hrel => exact .ok hrel
  | error fault other => exact .error _ _

/-- Results that are related in a second way on a condition. -/
theorem and_of_imp {condition : Prop} {more : α → β → Prop} (h : Alike rel first second)
    (hmore : condition → Alike more first second)
    : Alike (fun a b => rel a b ∧ (condition → more a b)) first second := by
  cases h with
  | error fault other => exact .error fault other
  | ok hrel =>
      refine .ok ⟨hrel, fun hcondition => ?_⟩
      cases hmore hcondition with
      | ok h => exact h

end Alike

/-- Two outcomes whose results are related, if both have one. -/
def ResultsAgree {ε' : Type} (rel : α → β → Prop) (first : Except ε α) (second : Except ε' β)
    : Prop :=
  ∀ ⦃result other⦄, first = .ok result → second = .ok other → rel result other

namespace ResultsAgree

variable {ε' γ δ : Type} {rel : α → β → Prop} {relNext : γ → δ → Prop} {first : Except ε α}
  {second : Except ε' β}

theorem ok {result : α} {other : β} (h : rel result other)
    : ResultsAgree rel (.ok result : Except ε α) (.ok other : Except ε' β) := by
  intro _ _ hresult hother
  cases hresult
  cases hother
  exact h

theorem error_left (fault : ε) : ResultsAgree rel (.error fault) second := fun _ _ h => nomatch h

theorem error_right (fault : ε') : ResultsAgree rel first (.error fault) :=
  fun _ _ _ h => nomatch h

/-- Results that agree go on to results that agree. -/
theorem bind {next : α → Except ε γ} {otherNext : β → Except ε' δ}
    (h : ResultsAgree rel first second)
    (hnext : ∀ {a b}, rel a b → ResultsAgree relNext (next a) (otherNext b))
    : ResultsAgree relNext (first.bind next) (second.bind otherNext) := by
  intro last otherLast hlast hother
  obtain ⟨result, hresult, hrest⟩ := exists_of_bind_eq_ok hlast
  obtain ⟨other, hsecond, hotherRest⟩ := exists_of_bind_eq_ok hother
  exact hnext (h hresult hsecond) hrest hotherRest

theorem mapError {ζ ζ' : Type} {wrap : ε → ζ} {otherWrap : ε' → ζ'}
    (h : ResultsAgree rel first second)
    : ResultsAgree rel (first.mapError wrap) (second.mapError otherWrap) :=
  fun _ _ hresult hother => h (mapError_eq_ok_iff.1 hresult) (mapError_eq_ok_iff.1 hother)

/-- Two runs over items that go in pairs, by induction on these. -/
theorem foldlM {Item : Type} {same : Item → Item → Prop} {step : α → Item → Except ε α}
    {otherStep : β → Item → Except ε' β}
    (keeps
      : ∀ {state other item otherItem},
          rel state other → same item otherItem →
            ResultsAgree rel (step state item) (otherStep other otherItem))
    {items others : List Item} (hitems : List.Forall₂ same items others) {state : α} {other : β}
    (h : rel state other)
    : ResultsAgree rel (items.foldlM step state) (others.foldlM otherStep other) := by
  induction hitems generalizing state other with
  | nil => exact .ok h
  | cons hitem _ ih =>
      rw [List.foldlM_cons, List.foldlM_cons]
      exact (keeps h hitem).bind fun hnext => ih hnext

end ResultsAgree

end StoryAtlas
