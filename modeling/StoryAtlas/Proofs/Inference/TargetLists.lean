import Mathlib.Data.List.TakeWhile
import StoryAtlas.Inference.Targets

/-! Lists of targets, written and read.
Around every separator the targets in a value are those in front of it and those behind it.  So
runs of separators and bare number signs do not matter, splitting undoes every way to write a list
of targets, and it is the same to trim the value first and to split it at runs of separators.
-/

namespace StoryAtlas.Inference

open StoryAtlas.Text

-----------------------------------------------------------------------------------------
-- Splitting at separators
-----------------------------------------------------------------------------------------

section Split

variable {test : Char → Bool} {c : Char}

theorem splitWhere_cons_of_test (h : test c = true) (rest : List Char)
    : splitWhere test (c :: rest) = [] :: splitWhere test rest := by
  simp [splitWhere, h]

theorem splitWhere_ne_nil (test : Char → Bool) (chars : List Char)
    : splitWhere test chars ≠ [] := by
  cases chars with
  | nil => simp [splitWhere]
  | cons c rest =>
      rw [splitWhere]
      split
      · simp
      · split <;> simp

/-- A character that does not separate goes in front of the first piece. -/
theorem splitWhere_cons_of_not_test (h : test c = false) {rest piece : List Char}
    {others : List (List Char)} (hrest : splitWhere test rest = piece :: others)
    : splitWhere test (c :: rest) = (c :: piece) :: others := by
  simp [splitWhere, h, hrest]

/-- The pieces around a separator are those in front of it and those behind it, by induction on
what is in front.
-/
theorem splitWhere_append_cons (h : test c = true) (front behind : List Char)
    : splitWhere test (front ++ c :: behind)
      = splitWhere test front ++ splitWhere test behind := by
  induction front with
  | nil => simp [splitWhere_cons_of_test h, splitWhere]
  | cons d front ih =>
      by_cases hd : test d = true
      · rw [List.cons_append, splitWhere_cons_of_test hd, splitWhere_cons_of_test hd, ih,
          List.cons_append]
      · have hd : test d = false := Bool.eq_false_iff.2 hd
        obtain ⟨piece, others, hfront⟩ :=
          List.exists_cons_of_ne_nil (splitWhere_ne_nil test front)
        rw [hfront, List.cons_append] at ih
        rw [List.cons_append, splitWhere_cons_of_not_test hd ih,
          splitWhere_cons_of_not_test hd hfront, List.cons_append]

theorem splitWhere_of_forall {piece : List Char} (h : ∀ d ∈ piece, test d = false)
    : splitWhere test piece = [piece] := by
  induction piece with
  | nil => rfl
  | cons d piece ih =>
      exact splitWhere_cons_of_not_test (h d List.mem_cons_self)
        (ih fun e he => h e (List.mem_cons_of_mem d he))

/-- No piece has a separator, by induction on the characters. -/
theorem test_of_mem_splitWhere {chars piece : List Char} (h : piece ∈ splitWhere test chars)
    : ∀ d ∈ piece, test d = false := by
  induction chars generalizing piece with
  | nil =>
      rw [List.mem_singleton.1 h]
      simp
  | cons c rest ih =>
      by_cases hc : test c = true
      · rw [splitWhere_cons_of_test hc] at h
        rcases List.mem_cons.1 h with rfl | hrest
        · simp
        · exact ih hrest
      · have hc : test c = false := Bool.eq_false_iff.2 hc
        obtain ⟨first, others, hsplit⟩ :=
          List.exists_cons_of_ne_nil (splitWhere_ne_nil test rest)
        rw [splitWhere_cons_of_not_test hc hsplit] at h
        rcases List.mem_cons.1 h with rfl | hothers
        · exact List.forall_mem_cons.2 ⟨hc, ih (hsplit ▸ List.mem_cons_self)⟩
        · exact ih (hsplit ▸ List.mem_cons_of_mem first hothers)

end Split

-----------------------------------------------------------------------------------------
-- The targets of pieces
-----------------------------------------------------------------------------------------

/-- The targets in some pieces: what is left of them without leading number signs, if anything. -/
def targetsOf (pieces : List (List Char)) : List (List Char) :=
  (pieces.map fun piece => piece.dropWhile (· == '#')).filter fun target => !target.isEmpty

theorem splitTargets_eq_targetsOf (value : List Char)
    : splitTargets value = targetsOf (splitWhere isSeparator value) :=
  rfl

theorem targetsOf_append (left right : List (List Char))
    : targetsOf (left ++ right) = targetsOf left ++ targetsOf right := by
  simp [targetsOf]

theorem splitTargets_of_forall {piece : List Char} (h : ∀ c ∈ piece, isSeparator c = false)
    : splitTargets piece = targetsOf [piece] := by
  rw [splitTargets_eq_targetsOf, splitWhere_of_forall h]

/-- The targets around a separator are those in front of it and those behind it. -/
theorem splitTargets_append_cons {c : Char} (h : isSeparator c = true) (front behind : List Char)
    : splitTargets (front ++ c :: behind) = splitTargets front ++ splitTargets behind := by
  rw [splitTargets_eq_targetsOf, splitWhere_append_cons h, targetsOf_append]
  rfl

/-- Leading separators do not matter, by induction on them. -/
theorem splitTargets_append_left {run : List Char} (h : ∀ c ∈ run, isSeparator c = true)
    (behind : List Char)
    : splitTargets (run ++ behind) = splitTargets behind := by
  induction run with
  | nil => rfl
  | cons c run ih =>
      have hfirst := splitTargets_append_cons (h c List.mem_cons_self) [] (run ++ behind)
      rw [List.nil_append] at hfirst
      rw [List.cons_append, hfirst, ih fun d hd => h d (List.mem_cons_of_mem c hd)]
      rfl

/-- A run of separators separates like one of them. -/
theorem splitTargets_append_run {run : List Char} (hne : run ≠ [])
    (h : ∀ c ∈ run, isSeparator c = true) (front behind : List Char)
    : splitTargets (front ++ run ++ behind) = splitTargets front ++ splitTargets behind := by
  cases run with
  | nil => exact absurd rfl hne
  | cons c run =>
      rw [List.append_assoc, List.cons_append, splitTargets_append_cons (h c List.mem_cons_self),
        splitTargets_append_left fun d hd => h d (List.mem_cons_of_mem c hd)]

/-- Trailing separators do not matter. -/
theorem splitTargets_append_right {run : List Char} (h : ∀ c ∈ run, isSeparator c = true)
    (front : List Char)
    : splitTargets (front ++ run) = splitTargets front := by
  cases run with
  | nil => rw [List.append_nil]
  | cons c run =>
      have hrun := splitTargets_append_run (List.cons_ne_nil c run) h front []
      rw [List.append_nil] at hrun
      rw [hrun]
      exact List.append_nil _

-----------------------------------------------------------------------------------------
-- Written lists
-----------------------------------------------------------------------------------------

/-- What can be a target in a value. -/
structure IsTarget (chars : List Char) : Prop where
  ne_nil : chars ≠ []
  unsigned : chars.head? ≠ some '#'
  unbroken : ∀ c ∈ chars, isSeparator c = false

/-- What stands between two separators: number signs, with a target behind them or alone. -/
inductive Part
  | bare (signs : Nat)
  | named (signs : Nat) (target : List Char) (isTarget : IsTarget target)

namespace Part

def chars : Part → List Char
  | bare signs => List.replicate signs '#'
  | named signs target _ => List.replicate signs '#' ++ target

def targets : Part → List (List Char)
  | bare _ => []
  | named _ target _ => [target]

theorem isSeparator_of_mem_replicate {signs : Nat} {c : Char} (h : c ∈ List.replicate signs '#')
    : isSeparator c = false := by
  rw [List.eq_of_mem_replicate h]
  rfl

theorem isSeparator_of_mem (part : Part) : ∀ c ∈ part.chars, isSeparator c = false := by
  cases part with
  | bare signs => exact fun c => isSeparator_of_mem_replicate
  | named signs target isTarget =>
      exact fun c hc =>
        (List.mem_append.1 hc).elim isSeparator_of_mem_replicate (isTarget.unbroken c)

theorem dropWhile_replicate_append (signs : Nat) (rest : List Char)
    : (List.replicate signs '#' ++ rest).dropWhile (· == '#') = rest.dropWhile (· == '#') := by
  induction signs with
  | zero => rfl
  | succ signs ih => simp [List.replicate_succ, ih]

theorem splitTargets_chars (part : Part) : splitTargets part.chars = part.targets := by
  rw [splitTargets_of_forall part.isSeparator_of_mem]
  cases part with
  | bare signs =>
      have hnone := dropWhile_replicate_append signs []
      rw [List.append_nil] at hnone
      simp [targetsOf, chars, targets, hnone]
  | named signs target isTarget =>
      have hkept : target.dropWhile (· == '#') = target := by
        cases target with
        | nil => rfl
        | cons c rest =>
            have hc : c ≠ '#' := by simpa using isTarget.unsigned
            simp [hc]
      simp [targetsOf, chars, targets, hkept, isTarget.ne_nil]

/-- A character that separates nothing can be written in front of every part. -/
theorem exists_cons {c : Char} (h : isSeparator c = false) (part : Part)
    : ∃ longer : Part, longer.chars = c :: part.chars := by
  by_cases hc : c = '#'
  · subst hc
    cases part with
    | bare signs => exact ⟨.bare (signs + 1), rfl⟩
    | named signs target isTarget => exact ⟨.named (signs + 1) target isTarget, rfl⟩
  · have isTarget : IsTarget (c :: part.chars) :=
      ⟨by simp, by simpa using hc, List.forall_mem_cons.2 ⟨h, part.isSeparator_of_mem⟩⟩
    exact ⟨.named 0 _ isTarget, rfl⟩

end Part

/-- One separator or several. -/
structure Gap where
  chars : List Char
  ne_nil : chars ≠ []
  separates : ∀ c ∈ chars, isSeparator c = true

/-- A way to write a list of targets: parts with gaps between them, and perhaps separators in
front of the first part and behind the last one.
-/
structure WrittenTargets where
  lead : Option Gap
  first : Part
  others : List (Gap × Part)
  trail : Option Gap

namespace WrittenTargets

/-- The parts behind the first one, each with the gap in front of it. -/
def charsOf (others : List (Gap × Part)) : List Char :=
  others.flatMap fun (gap, part) => gap.chars ++ part.chars

/-- The value that is written. -/
def chars (written : WrittenTargets) : List Char :=
  (written.lead.elim [] Gap.chars ++ (written.first.chars ++ charsOf written.others))
    ++ written.trail.elim [] Gap.chars

/-- The list that is written. -/
def targets (written : WrittenTargets) : List (List Char) :=
  written.first.targets ++ written.others.flatMap fun (_, part) => part.targets

theorem separates_of_mem_elim (gap? : Option Gap)
    : ∀ c ∈ gap?.elim [] Gap.chars, isSeparator c = true := by
  cases gap? with
  | none => simp
  | some gap => exact gap.separates

/-- The other parts are read one after the other, by induction on them. -/
theorem splitTargets_append_charsOf (front : List Char) (others : List (Gap × Part))
    : splitTargets (front ++ charsOf others)
      = splitTargets front ++ others.flatMap fun (_, part) => part.targets := by
  induction others generalizing front with
  | nil => simp [charsOf]
  | cons other others ih =>
      obtain ⟨gap, part⟩ := other
      have hsplit : front ++ charsOf ((gap, part) :: others)
          = front ++ gap.chars ++ (part.chars ++ charsOf others) := by
        simp [charsOf]
      rw [hsplit, splitTargets_append_run gap.ne_nil gap.separates, ih, part.splitTargets_chars,
        List.flatMap_cons]

theorem splitTargets_chars (written : WrittenTargets)
    : splitTargets written.chars = written.targets := by
  rw [chars, splitTargets_append_right (separates_of_mem_elim _),
    splitTargets_append_left (separates_of_mem_elim _), splitTargets_append_charsOf,
    Part.splitTargets_chars]
  rfl

/-- Every value is a way to write some list, by induction on its characters. -/
theorem exists_parts (value : List Char)
    : ∃ first others, (Part.chars first ++ charsOf others) = value := by
  induction value with
  | nil => exact ⟨.bare 0, [], rfl⟩
  | cons c rest ih =>
      obtain ⟨first, others, rfl⟩ := ih
      by_cases hc : isSeparator c = true
      · have separates : ∀ d ∈ [c], isSeparator d = true := by simpa using hc
        exact ⟨.bare 0, (⟨[c], by simp, separates⟩, first) :: others, rfl⟩
      · obtain ⟨longer, hlonger⟩ := first.exists_cons (Bool.eq_false_iff.2 hc)
        exact ⟨longer, others, by rw [hlonger]; rfl⟩

theorem exists_chars_eq (value : List Char)
    : ∃ written : WrittenTargets, written.chars = value := by
  obtain ⟨first, others, h⟩ := exists_parts value
  exact ⟨⟨none, first, others, none⟩, by simpa [chars] using h⟩

end WrittenTargets

-----------------------------------------------------------------------------------------
-- Splitting at runs of separators
-----------------------------------------------------------------------------------------

/-- The pieces between the longest runs of characters that satisfy a test. -/
def splitRuns (test : Char → Bool) (chars : List Char) : List (List Char) :=
  match _h : chars.dropWhile fun c => !test c with
  | [] => [chars.takeWhile fun c => !test c]
  | _ :: rest => (chars.takeWhile fun c => !test c) :: splitRuns test (rest.dropWhile test)
termination_by chars.length
decreasing_by
  have hdrop := congrArg List.length _h
  have hle := (List.dropWhile_suffix (l := chars) fun c => !test c).length_le
  have hrest := (List.dropWhile_suffix (l := rest) test).length_le
  simp only [List.length_cons] at hdrop
  omega

/-- Dropping leading separators changes no targets. -/
theorem splitTargets_dropWhile {test : Char → Bool}
    (h : ∀ c, test c = true → isSeparator c = true) (value : List Char)
    : splitTargets (value.dropWhile test) = splitTargets value := by
  have hrun : ∀ c ∈ value.takeWhile test, isSeparator c = true :=
    fun c hc => h c (List.mem_takeWhile_imp hc)
  calc
    splitTargets (value.dropWhile test)
      = splitTargets (value.takeWhile test ++ value.dropWhile test) :=
        (splitTargets_append_left hrun _).symm
    _ = splitTargets value := by rw [List.takeWhile_append_dropWhile]

/-- Dropping trailing separators changes no targets. -/
theorem splitTargets_dropEndWhile {test : Char → Bool}
    (h : ∀ c, test c = true → isSeparator c = true) (value : List Char)
    : splitTargets (dropEndWhile test value) = splitTargets value := by
  have hrun : ∀ c ∈ (value.reverse.takeWhile test).reverse, isSeparator c = true :=
    fun c hc => h c (List.mem_takeWhile_imp (List.mem_reverse.1 hc))
  calc
    splitTargets (dropEndWhile test value)
      = splitTargets (dropEndWhile test value ++ (value.reverse.takeWhile test).reverse) :=
        (splitTargets_append_right hrun _).symm
    _ = splitTargets value := by
        rw [dropEndWhile, ← List.reverse_append, List.takeWhile_append_dropWhile,
          List.reverse_reverse]

/-- Trimming a value changes none of its targets. -/
theorem splitTargets_trimChars (value : List Char)
    : splitTargets (trimChars value) = splitTargets value := by
  have hblank : ∀ c, isBlank c = true → isSeparator c = true := by
    intro c hc
    simp [isSeparator, hc]
  rw [trimChars, splitTargets_dropEndWhile hblank, trimStartChars, splitTargets_dropWhile hblank]

/-- The targets between runs of separators are those between single ones. -/
theorem targetsOf_splitRuns (value : List Char)
    : targetsOf (splitRuns isSeparator value) = splitTargets value := by
  fun_induction splitRuns isSeparator value with
  | case1 value h =>
      have hall := List.takeWhile_append_dropWhile (p := fun c => !isSeparator c) (l := value)
      have hfree : ∀ c ∈ value.takeWhile (fun c => !isSeparator c), isSeparator c = false :=
        fun c hc => by simpa using List.mem_takeWhile_imp hc
      rw [h, List.append_nil] at hall
      rw [← splitTargets_of_forall hfree, hall]
  | case2 value c rest h ih =>
      have hall := List.takeWhile_append_dropWhile (p := fun c => !isSeparator c) (l := value)
      have hfree : ∀ c ∈ value.takeWhile (fun c => !isSeparator c), isSeparator c = false :=
        fun c hc => by simpa using List.mem_takeWhile_imp hc
      have hc : isSeparator c = true := by
        have hhead := List.head?_dropWhile_not (fun c => !isSeparator c) value
        simpa [h] using hhead
      rw [splitTargets_dropWhile fun _ hd => hd] at ih
      rw [h] at hall
      calc
        targetsOf ((value.takeWhile fun c => !isSeparator c)
            :: splitRuns isSeparator (rest.dropWhile isSeparator))
          = targetsOf [value.takeWhile fun c => !isSeparator c]
            ++ targetsOf (splitRuns isSeparator (rest.dropWhile isSeparator)) :=
            targetsOf_append [_] _
        _ = splitTargets (value.takeWhile fun c => !isSeparator c) ++ splitTargets rest := by
            rw [ih, splitTargets_of_forall hfree]
        _ = splitTargets value := by rw [← splitTargets_append_cons hc, hall]

-----------------------------------------------------------------------------------------
-- What is read
-----------------------------------------------------------------------------------------

theorem isTarget_of_mem_splitTargets {value target : List Char} (h : target ∈ splitTargets value)
    : IsTarget target := by
  obtain ⟨hmem, hne⟩ := List.mem_filter.1 h
  obtain ⟨piece, hpiece, rfl⟩ := List.mem_map.1 hmem
  refine ⟨by simpa using hne, ?_, ?_⟩
  · intro hhead
    have hfirst := List.head?_dropWhile_not (fun c => c == '#') piece
    rw [hhead] at hfirst
    simp at hfirst
  · exact fun c hc =>
      test_of_mem_splitWhere hpiece c ((List.dropWhile_suffix _).subset hc)

/-- The targets in a value are a given list exactly if the value is a way to write that list.
They are targets all of them, and those that come of trimming the value, splitting it at runs of
separators and dropping leading number signs and empty pieces.
-/
theorem splitTargets_eq_iff_written (value : List Char)
    : (∀ targets,
        splitTargets value = targets
        ↔ ∃ written : WrittenTargets, written.chars = value ∧ written.targets = targets)
      ∧ (∀ target ∈ splitTargets value, IsTarget target)
      ∧ splitTargets value = targetsOf (splitRuns isSeparator (trimChars value)) := by
  refine ⟨fun targets => ⟨?_, ?_⟩, fun target => isTarget_of_mem_splitTargets, ?_⟩
  · rintro rfl
    obtain ⟨written, rfl⟩ := WrittenTargets.exists_chars_eq value
    exact ⟨written, rfl, written.splitTargets_chars.symm⟩
  · rintro ⟨written, rfl, rfl⟩
    exact written.splitTargets_chars
  · rw [targetsOf_splitRuns, splitTargets_trimChars]

/-- Two targets with signs, separators and bare signs around them. -/
theorem splitTargets_eq_iff_written_of_two_targets
    : ['b', '#'] ∈ splitTargets [' ', '#', 'a', ',', ' ', '#', ';', '#', '#', 'b', '#', '/']
      ∧ IsTarget ['b', '#'] := by
  have hmem
      : ['b', '#']
        ∈ splitTargets [' ', '#', 'a', ',', ' ', '#', ';', '#', '#', 'b', '#', '/'] := by
    decide
  exact ⟨hmem, (splitTargets_eq_iff_written _).2.1 _ hmem⟩

end StoryAtlas.Inference
