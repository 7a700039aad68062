import Mathlib.Data.List.Basic

/-! Readers of tokens.
A reader goes through the characters one by one.  A character ends some tokens, mostly none, and
leads from one place to the next, or it is out of place.  Texts that lead from one place to the
next can be read one after the other, with the tokens of both.
-/

namespace StoryAtlas.Text

variable {Token Place : Type}

/-- The tokens of the characters and the place behind them, from a place on. -/
def lexFrom (step : Place → Char → Option (List Token × Place)) (start : Place)
    : List Char → Option (List Token × Place)
  | [] => some ([], start)
  | c :: rest =>
      (step start c).bind fun here =>
        (lexFrom step here.2 rest).map fun behind => (here.1 ++ behind.1, behind.2)

variable {step : Place → Char → Option (List Token × Place)} {start middle stop : Place}

/-- A character is read in front of the others. -/
theorem lexFrom_cons {c : Char} {rest : List Char} {left right : List Token}
    (hstep : step start c = some (left, middle))
    (hrest : lexFrom step middle rest = some (right, stop))
    : lexFrom step start (c :: rest) = some (left ++ right, stop) := by
  rw [lexFrom, hstep, Option.bind_some, hrest, Option.map_some]

/-- A text is read by reading its parts, by induction on the first one. -/
theorem lexFrom_append {first second : List Char} {left right : List Token}
    (hfirst : lexFrom step start first = some (left, middle))
    (hsecond : lexFrom step middle second = some (right, stop))
    : lexFrom step start (first ++ second) = some (left ++ right, stop) := by
  induction first generalizing start left with
  | nil =>
      obtain ⟨rfl, rfl⟩ := Prod.mk.inj (Option.some.inj hfirst)
      exact hsecond
  | cons c rest ih =>
      obtain ⟨⟨ended, place⟩, hstep, hrest⟩ := Option.bind_eq_some_iff.1 hfirst
      obtain ⟨⟨tokens, last⟩, htokens, heq⟩ := Option.map_eq_some_iff.1 hrest
      obtain ⟨rfl, rfl⟩ := Prod.mk.inj heq
      rw [List.append_assoc]
      exact lexFrom_cons hstep (ih htokens)

/-- Items written one after the other are the tokens of all of them, by induction on the items. -/
theorem lexFrom_flatMap {α : Type} {written : α → List Char} {tokens : α → List Token}
    (h : ∀ item, lexFrom step start (written item) = some (tokens item, start)) (items : List α)
    : lexFrom step start (items.flatMap written) = some (items.flatMap tokens, start) := by
  induction items with
  | nil => rfl
  | cons item rest ih => exact lexFrom_append (h item) ih

/-- Between the first item and the others every item comes behind a separator. -/
theorem intercalate_cons {α : Type} (separator first : List α) (rest : List (List α))
    : separator.intercalate (first :: rest) = first ++ rest.flatMap (separator ++ ·) := by
  induction rest generalizing first with
  | nil => simp
  | cons next rest ih =>
      rw [List.intercalate_cons_cons, ih, List.flatMap_cons, List.append_assoc, List.append_assoc]

/-- Items with separators between them are their tokens with tokens between them. -/
theorem lexFrom_intercalate {α : Type} {written : α → List Char} {tokens : α → List Token}
    {separator : List Char} {mark : List Token}
    (hseparator : lexFrom step start separator = some (mark, start))
    (h : ∀ item, lexFrom step start (written item) = some (tokens item, start)) (items : List α)
    : lexFrom step start (separator.intercalate (items.map written))
      = some (mark.intercalate (items.map tokens), start) := by
  cases items with
  | nil => rfl
  | cons item rest =>
      rw [List.map_cons, List.map_cons, intercalate_cons, intercalate_cons, List.flatMap_map,
        List.flatMap_map]
      exact lexFrom_append (h item)
        (lexFrom_flatMap (fun item => lexFrom_append hseparator (h item)) rest)

end StoryAtlas.Text
