import Mathlib.Data.List.TakeWhile
import StoryAtlas.Markup.Attribute
import StoryAtlas.Markup.Entity
import StoryAtlas.Proofs.Text.Cuts

/-! The search for declarations of entities.
A text in which no keyword begins is passed over, whatever stands behind it.  Behind a keyword the
search reads a name and a literal or goes on where there are none, and it always has steps enough.
-/

namespace StoryAtlas.Markup

open StoryAtlas.Text

-----------------------------------------------------------------------------------------
-- Texts in which no declaration begins
-----------------------------------------------------------------------------------------

/-- No keyword begins in a text, whatever stands behind it. -/
def Silent : List Char → Prop
  | [] => True
  | c :: rest => (∀ behind, ¬ entityKeyword <+: c :: rest ++ behind) ∧ Silent rest

namespace Silent

variable {chars others : List Char}

theorem append (h : Silent chars) (hothers : Silent others) : Silent (chars ++ others) := by
  induction chars with
  | nil => exact hothers
  | cons c rest ih =>
      refine ⟨fun behind hprefix => h.1 (others ++ behind) ?_, ih h.2⟩
      simpa using hprefix

theorem flatMap {α : Type} {written : α → List Char} {items : List α}
    (h : ∀ item ∈ items, Silent (written item))
    : Silent (items.flatMap written) := by
  induction items with
  | nil => trivial
  | cons item rest ih =>
      rw [List.flatMap_cons]
      exact (h item List.mem_cons_self).append
        (ih fun other hother => h other (List.mem_cons_of_mem item hother))

/-- A keyword begins with `<`. -/
theorem of_not_mem (h : '<' ∉ chars) : Silent chars := by
  induction chars with
  | nil => trivial
  | cons c rest ih =>
      refine ⟨fun behind hprefix => ?_, ih fun hmem => h (List.mem_cons_of_mem c hmem)⟩
      exact h (List.mem_cons.2 (.inl (List.cons_prefix_cons.1 hprefix).1))

/-- A text without a keyword is silent together with a character that no keyword has, since a
keyword cannot go on over this character.
-/
theorem concat {c : Char} (hc : c ∉ entityKeyword) (h : ¬ entityKeyword <:+: chars)
    : Silent (chars ++ [c]) := by
  induction chars with
  | nil => exact of_not_mem fun hmem => hc (List.mem_singleton.1 hmem ▸ List.mem_cons_self)
  | cons d rest ih =>
      refine ⟨fun behind hprefix => ?_, ih fun hinner => h (List.infix_cons hinner)⟩
      have hfront : entityKeyword <+: (d :: rest) ++ c :: behind := by simpa using hprefix
      exact h (isPrefix_of_separator hc hfront).isInfix

end Silent

-----------------------------------------------------------------------------------------
-- The search
-----------------------------------------------------------------------------------------

/-- A step of the search goes on in the rest of the text, behind a name without blanks. -/
theorem scanDeclaration_shortens (chars : List Char)
    : match scanDeclaration chars with
      | .skip rest => rest.length ≤ chars.length
      | .found name _ rest => rest.length ≤ chars.length ∧ ∀ c ∈ name, isBlank c = false
      | .unclosed => True := by
  have htrimmed := length_dropWhile_le isBlank chars
  unfold scanDeclaration trimStartChars
  generalize chars.dropWhile isBlank = trimmed at htrimmed ⊢
  have hafter :=
    (length_dropWhile_le isBlank (trimmed.dropWhile fun c => !isBlank c)).trans
      (length_dropWhile_le (fun c => !isBlank c) trimmed)
  dsimp only
  by_cases hparameter : trimmed.head? = some '%'
  · rw [if_pos hparameter]
    exact htrimmed
  rw [if_neg hparameter]
  generalize (trimmed.dropWhile fun c => !isBlank c).dropWhile isBlank = afterName at hafter ⊢
  cases afterName with
  | nil => exact Nat.zero_le _
  | cons quote inner =>
      dsimp only
      rw [List.length_cons] at hafter
      by_cases hquote : quote = '"' ∨ quote = '\''
      · rw [if_pos hquote]
        cases hsplit : splitOnce? [quote] inner with
        | none => trivial
        | some split =>
            have hlength := congrArg List.length (eq_append_of_splitOnce? hsplit)
            simp only [List.length_append, List.length_singleton] at hlength
            refine ⟨by omega, fun c hc => ?_⟩
            simpa using List.mem_takeWhile_imp hc
      · rw [if_neg hquote]
        change (quote :: inner).length ≤ chars.length
        rw [List.length_cons]
        omega

/-- Any two numbers of steps that are enough for a text find the same declarations, by induction
on the first one.
-/
theorem scanDeclarations_eq {steps others : Nat} {chars : List Char}
    (hsteps : chars.length ≤ steps) (hothers : chars.length ≤ others)
    : scanDeclarations steps chars = scanDeclarations others chars := by
  have hnone (steps : Nat) : scanDeclarations steps [] = [] := by cases steps <;> rfl
  induction steps generalizing others chars with
  | zero =>
      obtain rfl := List.length_eq_zero_iff.mp (Nat.le_zero.mp hsteps)
      rw [hnone, hnone]
  | succ steps ih =>
      cases others with
      | zero =>
          obtain rfl := List.length_eq_zero_iff.mp (Nat.le_zero.mp hothers)
          rw [hnone, hnone]
      | succ others =>
          rw [scanDeclarations, scanDeclarations]
          cases hsplit : splitOnce? entityKeyword chars with
          | none => rfl
          | some split =>
              have hlength := congrArg List.length (eq_append_of_splitOnce? hsplit)
              simp only [entityKeyword, List.length_append, List.length_cons, List.length_nil]
                at hlength
              have hshort := scanDeclaration_shortens split.2
              dsimp only
              cases hfound : scanDeclaration split.2 with
              | skip rest =>
                  simp only [hfound] at hshort
                  exact ih (by omega) (by omega)
              | unclosed => rfl
              | found name literal rest =>
                  simp only [hfound] at hshort
                  exact congrArg _ (ih (by omega) (by omega))

/-- The declarations that the search finds in a text. -/
def declarationsIn (chars : List Char) : Entities :=
  scanDeclarations chars.length chars

/-- A silent text in front is passed over. -/
theorem splitOnce?_silent {front : List Char} (h : Silent front) (rest : List Char)
    : splitOnce? entityKeyword (front ++ rest)
      = (splitOnce? entityKeyword rest).map fun (before, after) => (front ++ before, after) := by
  induction front with
  | nil => simp
  | cons c front ih =>
      have hnone : dropPiece? entityKeyword (c :: front ++ rest) = none := by
        rw [Option.eq_none_iff_forall_ne_some]
        intro after hafter
        exact h.1 rest (dropPiece?_eq_some_iff.1 hafter ▸ List.prefix_append _ _)
      rw [List.cons_append] at hnone ⊢
      simp [splitOnce?, hnone, ih h.2, Function.comp_def]

theorem scanDeclarations_silent {front : List Char} (h : Silent front) (steps : Nat)
    (rest : List Char)
    : scanDeclarations steps (front ++ rest) = scanDeclarations steps rest := by
  cases steps with
  | zero => rfl
  | succ steps =>
      rw [scanDeclarations, scanDeclarations, splitOnce?_silent h]
      cases splitOnce? entityKeyword rest <;> rfl

theorem declarationsIn_silent {front : List Char} (h : Silent front) (rest : List Char)
    : declarationsIn (front ++ rest) = declarationsIn rest := by
  rw [declarationsIn, scanDeclarations_silent h]
  exact scanDeclarations_eq (by simp) le_rfl

/-- Behind a keyword a declaration is found or not, and then the search goes on. -/
theorem declarationsIn_keyword (chars : List Char)
    : declarationsIn (entityKeyword ++ chars)
      = match scanDeclaration chars with
        | .skip rest => declarationsIn rest
        | .unclosed => []
        | .found name literal rest =>
            (String.ofList name, String.ofList (replacementText literal))
              :: declarationsIn rest := by
  have hlength : (entityKeyword ++ chars).length = (chars.length + 7) + 1 := by
    simp [entityKeyword]
  have hshort := scanDeclaration_shortens chars
  rw [declarationsIn, hlength, scanDeclarations, splitOnce?_self]
  dsimp only
  cases hfound : scanDeclaration chars with
  | skip rest =>
      simp only [hfound] at hshort
      exact scanDeclarations_eq (by omega) le_rfl
  | unclosed => rfl
  | found name literal rest =>
      simp only [hfound] at hshort
      exact congrArg _ (scanDeclarations_eq (by omega) le_rfl)

-----------------------------------------------------------------------------------------
-- One declaration behind its keyword
-----------------------------------------------------------------------------------------

section Scan

variable {gap name between : List Char}

theorem scanDeclaration_parameter (hgap : ∀ c ∈ gap, isBlank c = true) (rest : List Char)
    : scanDeclaration (gap ++ '%' :: rest) = .skip ('%' :: rest) := by
  have htrim : trimStartChars (gap ++ '%' :: rest) = '%' :: rest :=
    dropWhile_append_cons hgap (by decide) rest
  rw [scanDeclaration, htrim]
  rfl

/-- Behind a name the declaration goes on at the next character. -/
theorem scanDeclaration_named (hgap : ∀ c ∈ gap, isBlank c = true) (hname : name ≠ [])
    (hsolid : ∀ c ∈ name, c ≠ '%' ∧ isBlank c = false) (hbetween : between ≠ [])
    (hblank : ∀ c ∈ between, isBlank c = true) {next : Char} (hnext : isBlank next = false)
    (rest : List Char)
    : scanDeclaration (gap ++ (name ++ (between ++ next :: rest)))
      = if next = '"' ∨ next = '\'' then
          match splitOnce? [next] rest with
          | none => .unclosed
          | some (literal, rest) => .found name literal rest
        else .skip (next :: rest) := by
  obtain ⟨first, others, rfl⟩ := List.exists_cons_of_ne_nil hname
  obtain ⟨blank, blanks, rfl⟩ := List.exists_cons_of_ne_nil hbetween
  obtain ⟨hpercent, hfirst⟩ := hsolid first List.mem_cons_self
  have hletters : ∀ c ∈ first :: others, (!isBlank c) = true := fun c hc => by
    simp [(hsolid c hc).2]
  have hend : (!isBlank blank) = false := by simp [hblank blank List.mem_cons_self]
  have htrim
      : trimStartChars (gap ++ (first :: others ++ (blank :: blanks ++ next :: rest)))
        = first :: others ++ blank :: (blanks ++ next :: rest) :=
    dropWhile_append_cons hgap hfirst _
  have hafter : trimStartChars (blank :: (blanks ++ next :: rest)) = next :: rest :=
    dropWhile_append_cons hblank hnext rest
  unfold scanDeclaration
  rw [htrim]
  dsimp only
  rw [dropWhile_append_cons hletters hend, takeWhile_append_cons hletters hend, hafter]
  refine (if_neg ?_).trans rfl
  simpa using hpercent

end Scan

end StoryAtlas.Markup
