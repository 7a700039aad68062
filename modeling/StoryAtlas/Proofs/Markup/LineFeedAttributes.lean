import StoryAtlas.Proofs.Markup.LineFeeds
import StoryAtlas.Proofs.Outcome

/-! Attributes of a tag whose line breaks are turned into line feeds.
Line breaks are blanks of a tag, so that its name and the names of its attributes stay as they
are, and only the written values have line breaks to turn.
-/

namespace StoryAtlas.Markup

open StoryAtlas.Text

-----------------------------------------------------------------------------------------
-- The steps of reading
-----------------------------------------------------------------------------------------

/-- Reads the value of an attribute and what follows it, given what follows the equals sign.  The
key is one of those seen.
-/
def readValue (equalsAt : Nat) (key : List Char) (seen : List (List Char × Nat))
    (afterEquals : List Char)
    : List (Except AttributeFault RawAttribute) :=
  let valueAt := equalsAt + 1 + (afterEquals.takeWhile isMarkupBlank).length
  match afterEquals.dropWhile isMarkupBlank with
  | [] => [.error (.missingValue valueAt)]
  | quote :: inner =>
      if isQuote quote then
        match splitOnce? [quote] inner with
        | none => [.error (.missingQuote (valueAt + 1 + byteLength inner) quote)]
        | some (value, rest) =>
            .ok ⟨key, value⟩ :: readAttributes (valueAt + 2 + byteLength value) seen rest
      else
        let skipped := (quote :: inner).takeWhile fun c => !isMarkupBlank c
        .error (.unquotedValue valueAt)
          :: readAttributes (valueAt + byteLength skipped) seen
            ((quote :: inner).dropWhile fun c => !isMarkupBlank c)

/-- Reads an attribute and what follows it, given its key and what follows the equals sign. -/
def readAssigned (start equalsAt : Nat) (key : List Char) (seen : List (List Char × Nat))
    (afterEquals : List Char)
    : List (Except AttributeFault RawAttribute) :=
  match seen.lookup key with
  | some previous =>
      let skipped := afterEquals.takeWhile fun c => !isMarkupBlank c
      .error (.duplicate start previous)
        :: readAttributes (equalsAt + 1 + byteLength skipped) seen
          (afterEquals.dropWhile fun c => !isMarkupBlank c)
  | none => readValue equalsAt key ((key, start) :: seen) afterEquals

theorem readAttributes_eq (position : Nat) (seen : List (List Char × Nat)) (chars : List Char)
    : readAttributes position seen chars
      = match chars.dropWhile isMarkupBlank with
        | [] => []
        | first :: afterFirst =>
            let start := position + (chars.takeWhile isMarkupBlank).length
            let key := first :: afterFirst.takeWhile isKeyChar
            let afterKey := afterFirst.dropWhile isKeyChar
            let equalsAt :=
              start + byteLength key + (afterKey.takeWhile isMarkupBlank).length
            match afterKey.dropWhile isMarkupBlank with
            | [] => [.error (.missingEquals equalsAt)]
            | c :: afterEquals =>
                if c = '=' then readAssigned start equalsAt key seen afterEquals
                else
                  .error (.missingEquals equalsAt)
                    :: readAttributes equalsAt seen (c :: afterEquals) := by
  rw [readAttributes]
  split
  · next hfirst => rw [hfirst]
  · next first afterFirst hfirst =>
      rw [hfirst]
      dsimp only
      split
      · next hequals => rw [hequals]
      · next c afterEquals hequals =>
          rw [hequals]
          dsimp only
          split
          · rw [readAssigned]
            cases seen.lookup (first :: afterFirst.takeWhile isKeyChar) with
            | some previous => rfl
            | none =>
                dsimp only
                rw [readValue]
                split
                · next hvalue => rw [hvalue]
                · next quote inner hvalue =>
                    rw [hvalue]
                    dsimp only
                    split
                    · split
                      · next hsplit => rw [hsplit]
                      · next hsplit => rw [hsplit]
                    · rfl
          · rfl

-----------------------------------------------------------------------------------------
-- Reading before and after
-----------------------------------------------------------------------------------------

/-- An attribute as it is written, before and after line breaks are turned. -/
def RawTurned (raw other : RawAttribute) : Prop :=
  other.key = raw.key ∧ other.value = lineFeeds false raw.value

/-- Attributes are read alike before and after from any text below a length, with the same keys
seen.
-/
def ReadAlikeBelow (bound : Nat) : Prop :=
  ∀ (rest : List Char) (position otherPosition : Nat) (seen other : List (List Char × Nat)),
    rest.length < bound → other.map Prod.fst = seen.map Prod.fst →
      List.Forall₂ (Alike RawTurned) (readAttributes position seen rest)
        (readAttributes otherPosition other (lineFeeds false rest))

/-- Whether a key is known does not depend on where it stands. -/
theorem lookup_eq_none_congr {key : List Char} {seen other : List (List Char × Nat)}
    (h : other.map Prod.fst = seen.map Prod.fst)
    : other.lookup key = none ↔ seen.lookup key = none := by
  have hmem (known : List (List Char × Nat))
      : known.lookup key = none ↔ key ∉ known.map Prod.fst := by
    rw [List.lookup_eq_none_iff, List.mem_map]
    constructor
    · rintro h ⟨entry, hentry, rfl⟩
      exact absurd (h entry hentry) (by simp)
    · intro h entry hentry
      exact bne_iff_ne.mpr fun heq => h ⟨entry, hentry, heq.symm⟩
  rw [hmem, hmem, h]

/-- A character that is no blank is no line break. -/
theorem ne_break_of_not_blank {c : Char} (h : isMarkupBlank c = false) : c ≠ '\r' ∧ c ≠ '\n' := by
  constructor <;> rintro rfl <;> exact absurd h (by decide)

theorem dropWhile_blank_lineFeeds (chars : List Char)
    : (lineFeeds false chars).dropWhile isMarkupBlank
      = lineFeeds false (chars.dropWhile isMarkupBlank) :=
  dropWhile_lineFeeds (by decide) (by decide) false chars

theorem dropWhile_not_blank_lineFeeds (chars : List Char)
    : (lineFeeds false chars).dropWhile (fun c => !isMarkupBlank c)
      = lineFeeds false (chars.dropWhile fun c => !isMarkupBlank c) :=
  dropWhile_lineFeeds_of_stop (by decide) (by decide) chars

section Steps

variable {bound : Nat} {seen other : List (List Char × Nat)} {afterEquals : List Char}

theorem readValue_alike (hbelow : ReadAlikeBelow bound) (hbound : afterEquals.length < bound)
    (hseen : other.map Prod.fst = seen.map Prod.fst) (equalsAt otherEqualsAt : Nat)
    (key : List Char)
    : List.Forall₂ (Alike RawTurned) (readValue equalsAt key seen afterEquals)
        (readValue otherEqualsAt key other (lineFeeds false afterEquals)) := by
  rw [readValue, readValue, dropWhile_blank_lineFeeds]
  have hvalueShort := length_dropWhile_le isMarkupBlank afterEquals
  cases hvalue : afterEquals.dropWhile isMarkupBlank with
  | nil => exact .cons (.error _ _) .nil
  | cons quote inner =>
      rw [hvalue, List.length_cons] at hvalueShort
      obtain ⟨hreturn, hfeed⟩ := ne_break_of_not_blank (stop_of_dropWhile_eq_cons hvalue)
      rw [lineFeeds_cons hreturn]
      dsimp only
      by_cases hquoted : isQuote quote = true
      · have hpiece : Unbreaking [quote] :=
          ⟨by simpa using hreturn.symm, by simpa using hfeed.symm⟩
        rw [if_pos hquoted, if_pos hquoted, splitOnce?_lineFeeds hpiece]
        cases hsplit : splitOnce? [quote] inner with
        | none => exact .cons (.error _ _) .nil
        | some split =>
            have hshort := congrArg List.length (eq_append_of_splitOnce? hsplit)
            simp only [List.length_append, List.length_singleton] at hshort
            exact .cons (.ok ⟨rfl, rfl⟩) (hbelow _ _ _ _ _ (by omega) hseen)
      · have hshort := length_dropWhile_le (fun c => !isMarkupBlank c) (quote :: inner)
        rw [List.length_cons] at hshort
        rw [if_neg hquoted, if_neg hquoted, ← lineFeeds_cons hreturn,
          dropWhile_not_blank_lineFeeds]
        exact .cons (.error _ _) (hbelow _ _ _ _ _ (by omega) hseen)

theorem readAssigned_alike (hbelow : ReadAlikeBelow bound) (hbound : afterEquals.length < bound)
    (hseen : other.map Prod.fst = seen.map Prod.fst)
    (start otherStart equalsAt otherEqualsAt : Nat) (key : List Char)
    : List.Forall₂ (Alike RawTurned) (readAssigned start equalsAt key seen afterEquals)
        (readAssigned otherStart otherEqualsAt key other (lineFeeds false afterEquals)) := by
  have hknown : other.lookup key = none ↔ seen.lookup key = none := lookup_eq_none_congr hseen
  rw [readAssigned, readAssigned]
  cases hlookup : seen.lookup key with
  | some previous =>
      have hnew : other.lookup key ≠ none := by
        rw [Ne, hknown, hlookup]
        exact Option.some_ne_none previous
      obtain ⟨otherPrevious, hother⟩ := Option.ne_none_iff_exists'.mp hnew
      have hshort := length_dropWhile_le (fun c => !isMarkupBlank c) afterEquals
      rw [hother]
      dsimp only
      rw [dropWhile_not_blank_lineFeeds]
      exact .cons (.error _ _) (hbelow _ _ _ _ _ (by omega) hseen)
  | none =>
      rw [hknown.mpr hlookup]
      refine readValue_alike hbelow hbound ?_ _ _ key
      rw [List.map_cons, List.map_cons, hseen]

end Steps

/-- Attributes are read alike before and after, by induction on the length of the tag. -/
theorem readAttributes_alike (bound : Nat) : ReadAlikeBelow bound := by
  have hreturnKey : isKeyChar '\r' = false := by decide
  have hfeedKey : isKeyChar '\n' = false := by decide
  induction bound with
  | zero =>
      intro chars _ _ _ _ hbound
      exact absurd hbound (Nat.not_lt_zero _)
  | succ bound ih =>
      intro chars position otherPosition seen other hbound hseen
      rw [readAttributes_eq, readAttributes_eq, dropWhile_blank_lineFeeds]
      have hfirstShort := length_dropWhile_le isMarkupBlank chars
      cases hfirst : chars.dropWhile isMarkupBlank with
      | nil => exact .nil
      | cons first afterFirst =>
          have hreturn := (ne_break_of_not_blank (stop_of_dropWhile_eq_cons hfirst)).1
          rw [hfirst, List.length_cons] at hfirstShort
          rw [lineFeeds_cons hreturn]
          dsimp only
          rw [takeWhile_lineFeeds_of_stop hreturnKey hfeedKey,
            dropWhile_lineFeeds_of_stop hreturnKey hfeedKey, dropWhile_blank_lineFeeds]
          have hequalsShort :=
            (length_dropWhile_le isMarkupBlank (afterFirst.dropWhile isKeyChar)).trans
              (length_dropWhile_le isKeyChar afterFirst)
          cases hequals : (afterFirst.dropWhile isKeyChar).dropWhile isMarkupBlank with
          | nil => exact .cons (.error _ _) .nil
          | cons c afterEquals =>
              have hreturn := (ne_break_of_not_blank (stop_of_dropWhile_eq_cons hequals)).1
              rw [hequals, List.length_cons] at hequalsShort
              rw [lineFeeds_cons hreturn]
              dsimp only
              split
              · exact readAssigned_alike ih (by omega) hseen _ _ _ _ _
              · rw [← lineFeeds_cons hreturn]
                refine .cons (.error _ _) (ih _ _ _ _ _ ?_ hseen)
                rw [List.length_cons]
                omega

theorem tagName_lineFeeds (content : List Char)
    : tagName (lineFeeds false content) = tagName content :=
  takeWhile_lineFeeds_of_stop (by decide) (by decide) content

/-- The attributes of a tag are alike before and after. -/
theorem attributesOf_alike (content : List Char)
    : List.Forall₂ (Alike RawTurned) (attributesOf content)
        (attributesOf (lineFeeds false content)) := by
  have hdrop (content : List Char)
      : content.drop (tagName content).length = content.dropWhile fun c => !isMarkupBlank c := by
    have hsplit : tagName content ++ content.dropWhile (fun c => !isMarkupBlank c) = content :=
      List.takeWhile_append_dropWhile
    have hrest :=
      @List.drop_left _ (tagName content) (content.dropWhile fun c => !isMarkupBlank c)
    rw [hsplit] at hrest
    exact hrest
  rw [attributesOf, attributesOf, hdrop, hdrop, dropWhile_lineFeeds_of_stop (by decide) (by decide)]
  exact readAttributes_alike _ _ _ _ _ _ (Nat.lt_succ_self _) rfl

end StoryAtlas.Markup
