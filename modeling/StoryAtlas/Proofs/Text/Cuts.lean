import Mathlib.Data.List.Infix
import StoryAtlas.Text.Bytes
import StoryAtlas.Text.Search

/-! Where a text is cut.
A run of characters ends in front of the first one that does not go on it, and a split comes at
the first occurrence of its piece.  Both are told by what stands in front of the cut.  Counted in
bytes of the UTF-8 form, a cut in front of a character comes behind the bytes of those before it.
-/

namespace StoryAtlas.Text

theorem takeWhile_append_of_head {test : Char → Bool} {run rest : List Char}
    (hrun : ∀ c ∈ run, test c = true) (hrest : ∀ c ∈ rest.head?, test c = false)
    : (run ++ rest).takeWhile test = run := by
  rw [List.takeWhile_append_of_pos hrun]
  cases rest with
  | nil => simp
  | cons c rest => simp [hrest c (by simp)]

theorem dropWhile_append_of_head {test : Char → Bool} {run rest : List Char}
    (hrun : ∀ c ∈ run, test c = true) (hrest : ∀ c ∈ rest.head?, test c = false)
    : (run ++ rest).dropWhile test = rest := by
  rw [List.dropWhile_append_of_pos hrun]
  cases rest with
  | nil => simp
  | cons c rest => simp [hrest c (by simp)]

theorem takeWhile_append_cons {test : Char → Bool} {run : List Char} {c : Char}
    (hrun : ∀ d ∈ run, test d = true) (hc : test c = false) (rest : List Char)
    : (run ++ c :: rest).takeWhile test = run :=
  takeWhile_append_of_head hrun fun d hd => by
    rw [List.head?_cons, Option.mem_some_iff] at hd
    exact hd ▸ hc

theorem dropWhile_append_cons {test : Char → Bool} {run : List Char} {c : Char}
    (hrun : ∀ d ∈ run, test d = true) (hc : test c = false) (rest : List Char)
    : (run ++ c :: rest).dropWhile test = c :: rest :=
  dropWhile_append_of_head hrun fun d hd => by
    rw [List.head?_cons, Option.mem_some_iff] at hd
    exact hd ▸ hc

/-- A piece that begins with a character that is not in front does not begin there. -/
theorem isInfix_of_append {p : Char} {piece front back : List Char} (h : p ∉ front)
    (hinner : p :: piece <:+: front ++ back)
    : p :: piece <:+: back := by
  induction front with
  | nil => exact hinner
  | cons c front ih =>
      rcases List.infix_cons_iff.1 hinner with hprefix | hrest
      · have heq : p = c := (List.cons_prefix_cons.1 hprefix).1
        exact absurd List.mem_cons_self (heq ▸ h)
      · exact ih (fun hmem => h (List.mem_cons_of_mem c hmem)) hrest

/-- A piece without the separator that stands in front stands in front of the separator. -/
theorem isPrefix_of_separator {piece left right : List Char} {c : Char} (h : c ∉ piece)
    (hstart : piece <+: left ++ c :: right)
    : piece <+: left := by
  induction left generalizing piece with
  | nil =>
      cases piece with
      | nil => exact List.nil_prefix
      | cons p rest => exact absurd ((List.cons_prefix_cons.1 hstart).1 ▸ List.mem_cons_self) h
  | cons d left ih =>
      cases piece with
      | nil => exact List.nil_prefix
      | cons p rest =>
          obtain ⟨hp, hrest⟩ := List.cons_prefix_cons.1 hstart
          exact List.cons_prefix_cons.2 ⟨hp, ih (fun hmem => h (List.mem_cons_of_mem p hmem)) hrest⟩

/-- A piece without the separator lies on one side of it. -/
theorem isInfix_of_separator {piece left right : List Char} {c : Char} (h : c ∉ piece)
    (hinner : piece <:+: left ++ c :: right)
    : piece <:+: left ∨ piece <:+: right := by
  have hstart {part : List Char} (hne : part ≠ []) (hpart : part <+: c :: right)
      : c ∈ part := by
    obtain ⟨first, rest, rfl⟩ := List.exists_cons_of_ne_nil hne
    rw [(List.cons_prefix_cons.1 hpart).1]
    exact List.mem_cons_self
  rcases List.infix_append_iff_ne_nil.1 hinner with hleft | hright | hacross
  · exact Or.inl hleft
  · rcases List.infix_cons_iff.1 hright with hprefix | hright
    · by_cases hempty : piece = []
      · exact Or.inl (hempty ▸ List.nil_infix)
      · exact absurd (hstart hempty hprefix) h
    · exact Or.inr hright
  · obtain ⟨front, back, -, hback, rfl, -, hprefix⟩ := hacross
    exact absurd (List.mem_append_right front (hstart hback hprefix)) h

theorem dropPiece?_append (piece rest : List Char)
    : dropPiece? piece (piece ++ rest) = some rest :=
  dropPiece?_eq_some_iff.2 rfl

theorem splitOnce?_self (piece rest : List Char)
    : splitOnce? piece (piece ++ rest) = some ([], rest) := by
  have hdrop := dropPiece?_append piece rest
  cases hall : piece ++ rest with
  | nil =>
      rw [hall] at hdrop
      simp [splitOnce?, hdrop]
  | cons c chars =>
      rw [hall] at hdrop
      simp [splitOnce?, hdrop]

/-- A split comes at an occurrence of its piece in front of which there is no other, by induction
on the part in front.
-/
theorem splitOnce?_append {piece body rest : List Char}
    (h : ∀ tail, tail <:+ body → tail ≠ [] → dropPiece? piece (tail ++ (piece ++ rest)) = none)
    : splitOnce? piece (body ++ (piece ++ rest)) = some (body, rest) := by
  induction body with
  | nil => exact splitOnce?_self piece rest
  | cons c body ih =>
      have hhere := h (c :: body) List.suffix_rfl (List.cons_ne_nil c body)
      have hrest := ih fun tail htail hne => h tail (htail.trans (List.suffix_cons c body)) hne
      rw [List.cons_append] at hhere ⊢
      simp [splitOnce?, hhere, hrest]

/-- A split comes behind any part without the piece, if the last character of the piece is there
only once.  An occurrence that began in this part and ended behind it would have that character
earlier on.
-/
theorem splitOnce?_of_absent {start body : List Char} {last : Char} (hlast : last ∉ start)
    (h : ¬ (start ++ [last]) <:+: body) (rest : List Char)
    : splitOnce? (start ++ [last]) (body ++ ((start ++ [last]) ++ rest)) = some (body, rest) := by
  refine splitOnce?_append fun tail htail hne => ?_
  rw [Option.eq_none_iff_forall_ne_some]
  intro others hothers
  rcases List.append_eq_append_iff.1 (dropPiece?_eq_some_iff.1 hothers) with
    ⟨overlap, hpiece, hover⟩ | ⟨overlap, hpiece, -⟩
  · rcases List.eq_nil_or_concat overlap with rfl | ⟨before, d, rfl⟩
    · rw [List.append_nil] at hpiece
      exact h (hpiece ▸ htail.isInfix)
    · rw [List.concat_eq_append] at hpiece hover
      rw [← List.append_assoc] at hpiece
      obtain ⟨hstart, hd⟩ := List.append_inj' hpiece rfl
      obtain rfl : last = d := List.singleton_inj.1 hd
      have hshort : (before ++ [last]).length ≤ start.length := by
        have hpos := List.length_pos_iff.2 hne
        rw [hstart, List.length_append, List.length_append, List.length_singleton]
        omega
      have hprefix : before ++ [last] <+: start ++ ([last] ++ rest) := by
        rw [← List.append_assoc, hover]
        exact List.prefix_append _ _
      have hinner := List.prefix_of_prefix_length_le hprefix (List.prefix_append _ _) hshort
      exact hlast (hinner.subset (by simp))
  · have hinner : start ++ [last] <+: tail := hpiece ▸ List.prefix_append _ _
    exact h (hinner.isInfix.trans htail.isInfix)

/-- A split at a single character comes at its first occurrence. -/
theorem splitOnce?_singleton {c : Char} {body : List Char} (h : c ∉ body) (rest : List Char)
    : splitOnce? [c] (body ++ c :: rest) = some (body, rest) := by
  have hinfix : ¬ [c] <:+: body := fun hinner => h (hinner.subset List.mem_cons_self)
  exact splitOnce?_of_absent (List.not_mem_nil (a := c)) hinfix rest

-----------------------------------------------------------------------------------------
-- Cuts in bytes
-----------------------------------------------------------------------------------------

theorem utf8ByteSize_ofList (chars : List Char)
    : (String.ofList chars).utf8ByteSize = byteLength chars := by
  induction chars with
  | nil => rfl
  | cons c chars ih =>
      rw [String.ofList_cons, String.utf8ByteSize_append, String.utf8ByteSize_singleton, ih,
        byteLength_cons]

theorem byteLength_toList (text : String) : byteLength text.toList = text.utf8ByteSize := by
  rw [← utf8ByteSize_ofList, String.ofList_toList]

/-- A character begins behind the bytes of the characters before it. -/
theorem getElem?_charOffsets (offset : Nat) (chars : List Char) (index : Nat)
    : (charOffsets offset chars)[index]?
      = if index < chars.length then some (offset + byteLength (chars.take index)) else none := by
  induction chars generalizing offset index with
  | nil => rfl
  | cons c rest ih =>
      cases index with
      | zero => simp [charOffsets]
      | succ index => simp [charOffsets, ih, Nat.add_assoc]

/-- A cut behind the bytes of some characters keeps these, by induction on them. -/
theorem charsBefore_byteLength (left right : List Char)
    : charsBefore (byteLength left) (left ++ right) = left := by
  induction left with
  | nil =>
      cases right with
      | nil => rfl
      | cons c right => exact if_pos c.utf8Size_pos
  | cons c left ih =>
      rw [byteLength_cons, List.cons_append, charsBefore, if_neg (by omega),
        Nat.add_sub_cancel_left, ih]

end StoryAtlas.Text
