import Mathlib.Data.List.DropRight
import Mathlib.Data.List.TakeWhile
import StoryAtlas.Text.Blank

/-! Texts without blanks at their ends.
Trimming makes a text such a one and leaves it alone if it is one already.  Nothing is left exactly
of a text of blanks.
-/

namespace StoryAtlas.Text

/-- The characters neither begin nor end with a blank. -/
structure IsTrimmed (chars : List Char) : Prop where
  head : ∀ c ∈ chars.head?, isBlank c = false
  last : ∀ c ∈ chars.getLast?, isBlank c = false

theorem isBlank_of_head?_trimStartChars {chars : List Char} {c : Char}
    (h : (trimStartChars chars).head? = some c)
    : isBlank c = false := by
  have hhead := List.head?_dropWhile_not isBlank chars
  rw [trimStartChars] at h
  rw [h] at hhead
  exact hhead

/-- A trimmed text has no blanks at its ends.
Witness: dropping the blanks behind leaves the first character alone.
-/
theorem isTrimmed_trimChars (chars : List Char) : IsTrimmed (trimChars chars) := by
  constructor
  · intro c hc
    obtain ⟨blanks, hblanks⟩ := List.rdropWhile_prefix isBlank (trimStartChars chars)
    have hhead : (trimStartChars chars).head? = some c := by
      rw [← hblanks, List.head?_append]
      exact Option.or_eq_some_iff.2 (Or.inl hc)
    exact isBlank_of_head?_trimStartChars hhead
  · intro c hc
    obtain ⟨hne, rfl⟩ := List.mem_getLast?_eq_getLast hc
    exact Bool.eq_false_iff.2 (List.rdropWhile_last_not isBlank (trimStartChars chars) hne)

theorem trimChars_eq_self {chars : List Char} (h : IsTrimmed chars) : trimChars chars = chars := by
  have hfront : chars.dropWhile isBlank = chars := by
    cases chars with
    | nil => rfl
    | cons c rest => exact List.dropWhile_cons_of_neg (Bool.eq_false_iff.1 (h.head c rfl))
  rw [trimChars, trimStartChars, hfront]
  refine List.rdropWhile_eq_self_iff.2 fun hne => Bool.eq_false_iff.1 (h.last _ ?_)
  exact List.getLast?_eq_some_getLast hne

theorem trimChars_eq_nil_iff {chars : List Char}
    : trimChars chars = [] ↔ isAllBlank chars = true := by
  rw [isAllBlank, List.all_eq_true, ← List.dropWhile_eq_nil_iff]
  constructor
  · intro h
    have hall : ∀ c ∈ trimStartChars chars, isBlank c = true := List.rdropWhile_eq_nil_iff.1 h
    refine List.eq_nil_iff_forall_not_mem.2 fun d hd => ?_
    obtain ⟨c, rest, hrest⟩ := List.exists_cons_of_ne_nil (List.ne_nil_of_mem hd)
    have hblank := hall c (by rw [trimStartChars, hrest]; exact List.mem_cons_self)
    rw [isBlank_of_head?_trimStartChars (congrArg List.head? hrest)] at hblank
    exact absurd hblank Bool.false_ne_true
  · intro h
    rw [trimChars, trimStartChars, h]
    rfl

end StoryAtlas.Text
