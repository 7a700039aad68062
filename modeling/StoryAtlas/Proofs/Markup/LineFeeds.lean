import StoryAtlas.Proofs.Markup.Reading

/-! Texts with their line breaks turned into line feeds.
A return becomes a line feed, and a line feed right behind a return goes with it, so that all
there is to know of the text in front is whether it ended in a return.  Cuts by tests and pieces
that tell no line break from another come at the same places before and after.
-/

namespace StoryAtlas.Markup

open StoryAtlas.Text

/-- The text with its line breaks turned into line feeds, behind a return if the first argument
says so.
-/
def lineFeeds : Bool → List Char → List Char
  | _, [] => []
  | afterReturn, c :: rest =>
      if c = '\r' then '\n' :: lineFeeds true rest
      else if c = '\n' ∧ afterReturn then lineFeeds false rest
      else c :: lineFeeds false rest

variable {afterReturn : Bool} {c : Char} {chars front back : List Char} {test : Char → Bool}

theorem lineFeeds_return (afterReturn : Bool) (chars : List Char)
    : lineFeeds afterReturn ('\r' :: chars) = '\n' :: lineFeeds true chars :=
  if_pos rfl

theorem lineFeeds_passed (chars : List Char)
    : lineFeeds true ('\n' :: chars) = lineFeeds false chars :=
  rfl

theorem lineFeeds_kept (hreturn : c ≠ '\r') (hfeed : ¬ (c = '\n' ∧ afterReturn))
    (chars : List Char)
    : lineFeeds afterReturn (c :: chars) = c :: lineFeeds false chars := by
  rw [lineFeeds, if_neg hreturn, if_neg hfeed]

/-- A character in front of which no return stands is kept unless it is one itself. -/
theorem lineFeeds_cons (h : c ≠ '\r') (chars : List Char)
    : lineFeeds false (c :: chars) = c :: lineFeeds false chars :=
  lineFeeds_kept h (fun hfeed => Bool.false_ne_true hfeed.2) chars

/-- A return matters to nothing but a line feed behind it. -/
theorem lineFeeds_true (h : chars.head? ≠ some '\n')
    : lineFeeds true chars = lineFeeds false chars := by
  cases chars with
  | nil => rfl
  | cons c rest =>
      have hfeed : c ≠ '\n' := fun heq => h (congrArg some heq)
      simp [lineFeeds, hfeed]

theorem normalizeLineBreaks_eq (chars : List Char)
    : normalizeLineBreaks chars = lineFeeds false chars := by
  fun_induction normalizeLineBreaks chars with
  | case1 => rfl
  | case2 rest ih => rw [lineFeeds_return, lineFeeds_passed, ih]
  | case3 c rest hnot ih =>
      by_cases hc : c = '\r'
      · have hhead : rest.head? ≠ some '\n' := by
          intro hhead
          obtain ⟨others, rfl⟩ := List.head?_eq_some_iff.mp hhead
          exact hnot others hc rfl
        rw [hc, lineFeeds_return, lineFeeds_true hhead, ih, if_pos rfl]
      · rw [lineFeeds_cons hc, ih, if_neg hc]

-----------------------------------------------------------------------------------------
-- What is in a text
-----------------------------------------------------------------------------------------

theorem return_not_mem_lineFeeds (afterReturn : Bool) (chars : List Char)
    : '\r' ∉ lineFeeds afterReturn chars := by
  fun_induction lineFeeds afterReturn chars with
  | case1 => exact List.not_mem_nil
  | case2 afterReturn rest ih => simpa using ih
  | case3 afterReturn c rest hreturn hfeed ih => exact ih
  | case4 afterReturn c rest hreturn hfeed ih => simp [ih, Ne.symm hreturn]

/-- Turning line breaks a second time changes nothing. -/
theorem normalizeLineBreaks_lineFeeds (afterReturn : Bool) (chars : List Char)
    : normalizeLineBreaks (lineFeeds afterReturn chars) = lineFeeds afterReturn chars :=
  normalizeLineBreaks_of_not_mem (return_not_mem_lineFeeds afterReturn chars)

theorem lineFeeds_of_not_mem (h : '\r' ∉ chars) : lineFeeds false chars = chars := by
  rw [← normalizeLineBreaks_eq, normalizeLineBreaks_of_not_mem h]

/-- Where a return stood there is a line feed. -/
theorem feed_mem_lineFeeds (h : '\r' ∈ chars) (afterReturn : Bool)
    : '\n' ∈ lineFeeds afterReturn chars := by
  fun_induction lineFeeds afterReturn chars with
  | case1 => cases h
  | case2 afterReturn rest ih => exact List.mem_cons_self
  | case3 afterReturn c rest hreturn hfeed ih =>
      exact ih ((List.mem_cons.mp h).resolve_left (Ne.symm hreturn))
  | case4 afterReturn c rest hreturn hfeed ih =>
      exact List.mem_cons_of_mem c (ih ((List.mem_cons.mp h).resolve_left (Ne.symm hreturn)))

theorem lineFeeds_eq_nil_iff : lineFeeds false chars = [] ↔ chars = [] := by
  cases chars with
  | nil => exact Iff.rfl
  | cons c rest => by_cases hc : c = '\r' <;> simp [lineFeeds, hc]

/-- The text begins with another character before and after. -/
theorem head?_lineFeeds_eq_some_iff (hreturn : c ≠ '\r') (hfeed : c ≠ '\n') (chars : List Char)
    : (lineFeeds false chars).head? = some c ↔ chars.head? = some c := by
  cases chars with
  | nil => exact Iff.rfl
  | cons d rest =>
      by_cases hd : d = '\r'
      · simp [hd, lineFeeds, hreturn.symm, hfeed.symm]
      · simp [lineFeeds_cons hd]

/-- A test that all line breaks pass is passed by the whole text before and after. -/
theorem all_lineFeeds (hreturn : test '\r' = true) (hfeed : test '\n' = true)
    (afterReturn : Bool) (chars : List Char)
    : (lineFeeds afterReturn chars).all test = chars.all test := by
  fun_induction lineFeeds afterReturn chars with
  | case1 => rfl
  | case2 afterReturn rest ih => simp [ih, hreturn, hfeed]
  | case3 afterReturn c rest _ hc ih => simp [ih, hc.1, hfeed]
  | case4 afterReturn c rest _ _ ih => simp [ih]

/-- Turning line breaks only concerns what is in front of another character and what is behind
it.
-/
theorem lineFeeds_append_cons (hreturn : c ≠ '\r') (hfeed : c ≠ '\n') (afterReturn : Bool)
    (front back : List Char)
    : lineFeeds afterReturn (front ++ c :: back)
      = lineFeeds afterReturn front ++ c :: lineFeeds false back := by
  fun_induction lineFeeds afterReturn front with
  | case1 => exact lineFeeds_kept hreturn (fun h => hfeed h.1) back
  | case2 afterReturn rest ih => rw [List.cons_append, lineFeeds_return, ih, List.cons_append]
  | case3 afterReturn d rest hd hpassed ih =>
      rw [List.cons_append, lineFeeds, if_neg hd, if_pos hpassed, ih]
  | case4 afterReturn d rest hd hkept ih =>
      rw [List.cons_append, lineFeeds_kept hd hkept, ih, List.cons_append]

/-- The text ends in another character before and after. -/
theorem getLast?_lineFeeds_eq_some_iff (hreturn : c ≠ '\r') (hfeed : c ≠ '\n')
    (afterReturn : Bool) (chars : List Char)
    : (lineFeeds afterReturn chars).getLast? = some c ↔ chars.getLast? = some c := by
  have hend {x : Option Char} {d : Char} (hd : d ≠ c) : x.getD d = c ↔ x = some c := by
    cases x <;> simp [hd]
  fun_induction lineFeeds afterReturn chars with
  | case1 => exact Iff.rfl
  | case2 afterReturn rest ih =>
      simp [List.getLast?_cons, hend hreturn.symm, hend hfeed.symm, ih]
  | case3 afterReturn d rest _ hpassed ih =>
      simp [List.getLast?_cons, hpassed.1, hend hfeed.symm, ih]
  | case4 afterReturn d rest _ _ ih =>
      by_cases hd : d = c
      · cases rest with
        | nil => simp [lineFeeds]
        | cons e others =>
            have hne : lineFeeds false (e :: others) ≠ [] :=
              fun hnil => nomatch lineFeeds_eq_nil_iff.mp hnil
            rw [List.getLast?_cons_of_ne_nil hne, List.getLast?_cons_cons]
            exact ih
      · simp [List.getLast?_cons, hend hd, ih]

-----------------------------------------------------------------------------------------
-- Cuts
-----------------------------------------------------------------------------------------

section Cuts

/-- The parts of a split text with their line breaks turned.  The text may come behind a return,
the rest does not.
-/
def turnSplit (afterReturn : Bool) (split : List Char × List Char) : List Char × List Char :=
  (lineFeeds afterReturn split.1, lineFeeds false split.2)

theorem turnSplit_kept (hreturn : c ≠ '\r') (hfeed : ¬ (c = '\n' ∧ afterReturn))
    (split : List Char × List Char)
    : turnSplit afterReturn (consSplit c split) = consSplit c (turnSplit false split) :=
  congrArg (·, _) (lineFeeds_kept hreturn hfeed split.1)

/-- What stops a run does not go on it. -/
theorem stop_of_dropWhile_eq_cons {rest : List Char} (h : chars.dropWhile test = c :: rest)
    : test c = false := by
  have hhead := List.head?_dropWhile_not test chars
  rw [h] at hhead
  exact hhead

theorem length_lt_of_dropWhile_eq_cons {rest : List Char} (h : chars.dropWhile test = c :: rest)
    : rest.length < chars.length := by
  have hle := (List.dropWhile_suffix (l := chars) test).length_le
  rw [h] at hle
  exact hle

/-- A run that goes on over line breaks. -/
theorem takeWhile_lineFeeds (hreturn : test '\r' = true) (hfeed : test '\n' = true)
    (afterReturn : Bool) (chars : List Char)
    : (lineFeeds afterReturn chars).takeWhile test
      = lineFeeds afterReturn (chars.takeWhile test) := by
  fun_induction lineFeeds afterReturn chars with
  | case1 => rfl
  | case2 afterReturn rest ih => simp [lineFeeds, hreturn, hfeed, ih]
  | case3 afterReturn c rest hc hpassed ih =>
      obtain ⟨rfl, rfl⟩ := hpassed
      simp [lineFeeds, hfeed, ih]
  | case4 afterReturn c rest hc hkept ih =>
      cases hgoes : test c with
      | false => simp [lineFeeds, hgoes]
      | true => simp [lineFeeds_kept hc hkept, hgoes, ih]

theorem dropWhile_lineFeeds (hreturn : test '\r' = true) (hfeed : test '\n' = true)
    (afterReturn : Bool) (chars : List Char)
    : (lineFeeds afterReturn chars).dropWhile test
      = lineFeeds false (chars.dropWhile test) := by
  fun_induction lineFeeds afterReturn chars with
  | case1 => rfl
  | case2 afterReturn rest ih => simp [hreturn, hfeed, ih]
  | case3 afterReturn c rest hc hpassed ih => simp [hpassed.1, hfeed, ih]
  | case4 afterReturn c rest hc hkept ih =>
      cases hgoes : test c with
      | false => simp [hgoes, lineFeeds_cons hc]
      | true => simp [hgoes, ih]

/-- A run that ends at line breaks. -/
theorem takeWhile_lineFeeds_of_stop (hreturn : test '\r' = false) (hfeed : test '\n' = false)
    (chars : List Char)
    : (lineFeeds false chars).takeWhile test = chars.takeWhile test := by
  induction chars with
  | nil => rfl
  | cons c rest ih =>
      by_cases hc : c = '\r'
      · simp [hc, lineFeeds, hreturn, hfeed]
      · simp only [lineFeeds_cons hc, List.takeWhile_cons, ih]

theorem dropWhile_lineFeeds_of_stop (hreturn : test '\r' = false) (hfeed : test '\n' = false)
    (chars : List Char)
    : (lineFeeds false chars).dropWhile test = lineFeeds false (chars.dropWhile test) := by
  induction chars with
  | nil => rfl
  | cons c rest ih =>
      by_cases hc : c = '\r'
      · simp [hc, lineFeeds, hreturn, hfeed]
      · rw [lineFeeds_cons hc, List.dropWhile_cons, List.dropWhile_cons, ih]
        split
        · rfl
        · exact (lineFeeds_cons hc rest).symm

/-- A text all passes a test, or there is a last character that fails it. -/
theorem all_or_exists_last (test : Char → Bool) (chars : List Char)
    : chars.all test = true
      ∨ ∃ front c back, chars = front ++ c :: back ∧ test c = false ∧ back.all test = true := by
  induction chars with
  | nil => exact Or.inl rfl
  | cons d rest ih =>
      rcases ih with hall | ⟨front, c, back, rfl, hc, hback⟩
      · cases hd : test d with
        | true => exact Or.inl (by simp [hd, hall])
        | false => exact Or.inr ⟨[], d, rest, rfl, hd, hall⟩
      · exact Or.inr ⟨d :: front, c, back, rfl, hc, hback⟩

theorem dropEndWhile_eq_nil (h : chars.all test = true) : dropEndWhile test chars = [] := by
  have hreverse : ∀ d ∈ chars.reverse, test d = true := by
    intro d hd
    exact List.all_eq_true.mp h d (List.mem_reverse.mp hd)
  have hdrop := @dropWhile_append_of_head test chars.reverse [] hreverse (by simp)
  rw [List.append_nil] at hdrop
  rw [dropEndWhile, hdrop, List.reverse_nil]

theorem dropEndWhile_append_cons (hc : test c = false) (hback : back.all test = true)
    (front : List Char)
    : dropEndWhile test (front ++ c :: back) = front ++ [c] := by
  have hreverse : ∀ d ∈ back.reverse, test d = true := by
    intro d hd
    exact List.all_eq_true.mp hback d (List.mem_reverse.mp hd)
  rw [dropEndWhile, List.reverse_append, List.reverse_cons, List.append_assoc,
    List.singleton_append, dropWhile_append_cons hreverse hc]
  simp

/-- The blanks at the end of a text, among them line breaks, are cut off before and after. -/
theorem dropEndWhile_lineFeeds (hreturn : test '\r' = true) (hfeed : test '\n' = true)
    (chars : List Char)
    : dropEndWhile test (lineFeeds false chars) = lineFeeds false (dropEndWhile test chars) := by
  rcases all_or_exists_last test chars with hall | ⟨front, c, back, rfl, hc, hback⟩
  · have hturned := (all_lineFeeds hreturn hfeed false chars).trans hall
    rw [dropEndWhile_eq_nil hall, dropEndWhile_eq_nil hturned]
    rfl
  · have hturned := (all_lineFeeds hreturn hfeed false back).trans hback
    have hother : c ≠ '\r' ∧ c ≠ '\n' := by
      constructor <;> rintro rfl <;> simp_all
    rw [lineFeeds_append_cons hother.1 hother.2, dropEndWhile_append_cons hc hturned,
      dropEndWhile_append_cons hc hback, lineFeeds_append_cons hother.1 hother.2]
    rfl

/-- A piece without line breaks. -/
def Unbreaking (piece : List Char) : Prop :=
  '\r' ∉ piece ∧ '\n' ∉ piece

namespace Unbreaking

variable {p : Char} {piece : List Char}

theorem head (h : Unbreaking (p :: piece)) : p ≠ '\r' ∧ p ≠ '\n' :=
  ⟨fun heq => h.1 (heq ▸ List.mem_cons_self), fun heq => h.2 (heq ▸ List.mem_cons_self)⟩

theorem tail (h : Unbreaking (p :: piece)) : Unbreaking piece :=
  ⟨fun hmem => h.1 (List.mem_cons_of_mem p hmem), fun hmem => h.2 (List.mem_cons_of_mem p hmem)⟩

end Unbreaking

theorem unbreaking_takeWhile (hreturn : test '\r' = false) (hfeed : test '\n' = false)
    (chars : List Char)
    : Unbreaking (chars.takeWhile test) := by
  have hall := List.all_takeWhile (p := test) (l := chars)
  rw [List.all_eq_true] at hall
  constructor
  · intro hmem
    exact absurd (hall _ hmem) (by simp [hreturn])
  · intro hmem
    exact absurd (hall _ hmem) (by simp [hfeed])

theorem dropPiece?_lineFeeds {piece : List Char} (h : Unbreaking piece) (chars : List Char)
    : dropPiece? piece (lineFeeds false chars)
      = (dropPiece? piece chars).map (lineFeeds false) := by
  induction piece generalizing chars with
  | nil => rfl
  | cons p piece ih =>
      cases chars with
      | nil => rfl
      | cons c rest =>
          by_cases hc : c = '\r'
          · simp [hc, lineFeeds, dropPiece?, h.head]
          · rw [lineFeeds_cons hc, dropPiece?, dropPiece?]
            split
            · exact ih h.tail rest
            · rfl

/-- Where line breaks were there are some. -/
theorem not_unbreaking_lineFeeds (h : ¬ Unbreaking chars)
    : ¬ Unbreaking (lineFeeds false chars) := by
  by_cases hmem : '\r' ∈ chars
  · exact fun hturned => hturned.2 (feed_mem_lineFeeds hmem false)
  · rwa [lineFeeds_of_not_mem hmem]

/-- A text without a piece in front has none there with its line breaks turned. -/
theorem lineFeeds_ne_append {piece : List Char} (hpiece : Unbreaking piece)
    (h : ∀ after, chars ≠ piece ++ after) (after : List Char)
    : lineFeeds false chars ≠ piece ++ after := by
  intro hturned
  have hdrop := dropPiece?_lineFeeds hpiece chars
  rw [dropPiece?_eq_some_iff.mpr hturned] at hdrop
  obtain ⟨rest, hrest, -⟩ := Option.map_eq_some_iff.mp hdrop.symm
  exact h rest (dropPiece?_eq_some_iff.mp hrest)

/-- A piece without line breaks is kept as it is. -/
theorem Unbreaking.lineFeeds_append {p : Char} {piece : List Char} (h : Unbreaking (p :: piece))
    (afterReturn : Bool) (after : List Char)
    : lineFeeds afterReturn (p :: (piece ++ after)) = p :: (piece ++ lineFeeds false after) := by
  have hp := h.head
  rw [lineFeeds_kept hp.1 fun hpassed => hp.2 hpassed.1]
  refine congrArg (p :: ·) ?_
  replace h := h.tail
  induction piece with
  | nil => rfl
  | cons q piece ih => rw [List.cons_append, lineFeeds_cons h.head.1, ih h.tail, List.cons_append]

theorem splitOnce?_lineFeeds {p : Char} {piece : List Char} (h : Unbreaking (p :: piece))
    (afterReturn : Bool) (chars : List Char)
    : splitOnce? (p :: piece) (lineFeeds afterReturn chars)
      = (splitOnce? (p :: piece) chars).map (turnSplit afterReturn) := by
  obtain ⟨hreturn, hfeed⟩ := h.head
  fun_induction lineFeeds afterReturn chars with
  | case1 => rfl
  | case2 afterReturn rest ih =>
      simp only [splitOnce?, dropPiece?, if_neg hreturn, if_neg hfeed, ih, Option.map_map]
      rfl
  | case3 afterReturn c rest hc hpassed ih =>
      obtain ⟨rfl, rfl⟩ := hpassed
      simp only [splitOnce?, dropPiece?, if_neg hfeed, ih, Option.map_map]
      rfl
  | case4 afterReturn c rest hc hkept ih =>
      have hhere := dropPiece?_lineFeeds h (c :: rest)
      rw [lineFeeds_cons hc] at hhere
      rw [splitOnce?, splitOnce?, hhere]
      cases dropPiece? (p :: piece) (c :: rest) with
      | some after => rfl
      | none =>
          simp only [Option.map_none, ih, Option.map_map]
          exact congrArg (Option.map · _) (funext fun split => (turnSplit_kept hc hkept split).symm)

end Cuts

/-- In attribute values all line breaks are spaces. -/
theorem normalizeValue_lineFeeds (value : List Char)
    : normalizeValue (lineFeeds false value) = normalizeValue value := by
  rw [← normalizeLineBreaks_eq]
  fun_induction normalizeLineBreaks value with
  | case1 => rfl
  | case2 rest ih => simp [normalizeValue, ih]
  | case3 c rest hnot ih =>
      have hvalue
          : normalizeValue (c :: rest)
            = (if c = '\t' ∨ c = '\r' ∨ c = '\n' then ' ' else c) :: normalizeValue rest := by
        rw [normalizeValue]
        exact hnot
      rw [hvalue]
      by_cases hc : c = '\r'
      · simp [hc, normalizeValue, ih]
      · simp [hc, normalizeValue, ih]

end StoryAtlas.Markup
