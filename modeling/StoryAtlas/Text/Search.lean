/-! Searching and replacing in a list of characters.
A split at the first occurrence of a piece gives the part before it and the part after it, so
that the three together are the whole; replacement goes from left to right and never looks at
what it has written.
-/

namespace StoryAtlas.Text

/-- The rest of the characters when they begin with the given piece. -/
def dropPiece? : List Char → List Char → Option (List Char)
  | [], chars => some chars
  | _ :: _, [] => none
  | p :: piece, c :: chars => if p = c then dropPiece? piece chars else none

theorem dropPiece?_eq_some_iff {piece chars rest : List Char}
    : dropPiece? piece chars = some rest ↔ chars = piece ++ rest := by
  induction piece generalizing chars with
  | nil => simp [dropPiece?, eq_comm]
  | cons p piece ih =>
      cases chars with
      | nil => simp [dropPiece?]
      | cons c chars =>
          by_cases h : p = c
          · simp [dropPiece?, h, ih]
          · simp [dropPiece?, h, Ne.symm h]

/-- The parts before and after the first occurrence of a piece. -/
def splitOnce? (piece : List Char) : List Char → Option (List Char × List Char)
  | [] => (dropPiece? piece []).map fun rest => ([], rest)
  | c :: chars =>
      match dropPiece? piece (c :: chars) with
      | some rest => some ([], rest)
      | none => (splitOnce? piece chars).map fun (before, after) => (c :: before, after)

/-- A split loses nothing. -/
theorem eq_append_of_splitOnce? {piece chars before after : List Char}
    (h : splitOnce? piece chars = some (before, after)) : chars = before ++ piece ++ after := by
  induction chars generalizing before after with
  | nil =>
      simp only [splitOnce?, Option.map_eq_some_iff, Prod.mk.injEq] at h
      obtain ⟨rest, hrest, rfl, rfl⟩ := h
      simpa using dropPiece?_eq_some_iff.1 hrest
  | cons c chars ih =>
      simp only [splitOnce?] at h
      split at h
      · next rest hrest =>
          simp only [Option.some.injEq, Prod.mk.injEq] at h
          obtain ⟨rfl, rfl⟩ := h
          simpa using dropPiece?_eq_some_iff.1 hrest
      · obtain ⟨⟨b, a⟩, hsplit, heq⟩ := Option.map_eq_some_iff.1 h
        simp only [Prod.mk.injEq] at heq
        obtain ⟨rfl, rfl⟩ := heq
        simp [ih hsplit]

/-- Replaces every occurrence of a character by a piece. -/
def replaceChar (old : Char) (new : List Char) (chars : List Char) : List Char :=
  chars.flatMap fun c => if c = old then new else [c]

/-- Replaces every occurrence of a pair of characters, from left to right. -/
def replacePair (first second : Char) (new : List Char) : List Char → List Char
  | a :: b :: chars =>
      if a = first ∧ b = second then new ++ replacePair first second new chars
      else a :: replacePair first second new (b :: chars)
  | chars => chars

end StoryAtlas.Text
