import StoryAtlas.Proofs.Markup.Reading

/-! The spans of tokens.
A token is read from a piece of the source, and its span tells where this piece stands, in bytes
of the UTF-8 form.  The bytes of a second byte order mark are not counted, so behind it every
span stands three bytes too far in front.
-/

namespace StoryAtlas

open StoryAtlas.Text

-----------------------------------------------------------------------------------------
-- Pieces of a source text
-----------------------------------------------------------------------------------------

/-- A span, moved by a number of bytes, cuts a piece out of a source text.  As both ends of the
piece stand between two parts of the text, they lie on boundaries of characters.
-/
def Cuts (source : String) (shift : Nat) (span : Span) (piece : String) : Prop :=
  ∃ before after : String,
    source = before ++ piece ++ after
    ∧ before.utf8ByteSize = span.start + shift
    ∧ (before ++ piece).utf8ByteSize = span.stop + shift

/-- A span cuts out a tag with the given name. -/
def CutsTag (source : String) (shift : Nat) (span : Span) (tag : String) : Prop :=
  ∃ rest, Cuts source shift span ("<" ++ tag ++ rest ++ ">")

/-- The part in front of a place is known by its bytes, by induction on it: no character is
written without bytes.
-/
theorem Text.append_inj_of_byteLength {left right first second : List Char}
    (h : left ++ first = right ++ second) (hlength : byteLength left = byteLength right)
    : left = right ∧ first = second := by
  induction left generalizing right with
  | nil =>
      cases right with
      | nil => exact ⟨rfl, h⟩
      | cons d right =>
          have hpos := d.utf8Size_pos
          rw [byteLength_nil, byteLength_cons] at hlength
          omega
  | cons c left ih =>
      cases right with
      | nil =>
          have hpos := c.utf8Size_pos
          rw [byteLength_nil, byteLength_cons] at hlength
          omega
      | cons d right =>
          obtain ⟨rfl, hrest⟩ := List.cons.inj h
          rw [byteLength_cons, byteLength_cons, Nat.add_left_cancel_iff] at hlength
          obtain ⟨rfl, hsame⟩ := ih hrest hlength
          exact ⟨rfl, hsame⟩

/-- A span cuts out one piece only. -/
theorem Cuts.unique {source piece other : String} {shift : Nat} {span : Span}
    (h : Cuts source shift span piece) (hother : Cuts source shift span other)
    : piece = other := by
  obtain ⟨before, after, hsource, hstart, hstop⟩ := h
  obtain ⟨otherBefore, otherAfter, hotherSource, hotherStart, hotherStop⟩ := hother
  have hsame : (before ++ piece).toList ++ after.toList
      = (otherBefore ++ other).toList ++ otherAfter.toList := by
    rw [← String.toList_append, ← String.toList_append, ← hsource, ← hotherSource]
  have hstops : byteLength (before ++ piece).toList = byteLength (otherBefore ++ other).toList := by
    rw [byteLength_toList, byteLength_toList, hstop, hotherStop]
  have hstarts : byteLength before.toList = byteLength otherBefore.toList := by
    rw [byteLength_toList, byteLength_toList, hstart, hotherStart]
  have hpieces := (append_inj_of_byteLength hsame hstops).1
  rw [String.toList_append, String.toList_append] at hpieces
  exact String.toList_inj.1 (append_inj_of_byteLength hpieces hstarts).2

namespace Markup

-----------------------------------------------------------------------------------------
-- Tokens
-----------------------------------------------------------------------------------------

/-- The bytes of a source text that its spans leave out: those of a second byte order mark. -/
def uncountedBytes (source : String) : Nat :=
  match source.toList with
  | '\uFEFF' :: '\uFEFF' :: _ => 3
  | _ => 0

/-- The span of each token behind a part of the source cuts out what the token was read from, by
the recursion of the reading.
-/
theorem cuts_of_mem_lex {source : String} {shift position : Nat} {before chars : List Char}
    (hsource : source.toList = before ++ chars) (hposition : byteLength before = position + shift)
    {lexeme : Lexeme} (h : lexeme ∈ (lex position chars).1)
    : Cuts source shift lexeme.span (String.ofList lexeme.token.written) := by
  induction hlength : chars.length using Nat.strong_induction_on
    generalizing position before chars with
  | _ length ih =>
      subst hlength
      cases chars with
      | nil =>
          rw [lex] at h
          exact absurd h List.not_mem_nil
      | cons c chars =>
          cases hread : readToken c chars with
          | error fault =>
              rw [lex_fault hread] at h
              exact absurd h List.not_mem_nil
          | ok split =>
              obtain ⟨token, rest⟩ := split
              rw [lex_cons hread] at h
              rw [readToken_split hread] at hsource
              rcases List.mem_cons.1 h with rfl | hrest
              · refine ⟨String.ofList before, String.ofList rest, ?_, ?_, ?_⟩
                · rw [← String.ofList_append, ← String.ofList_append, List.append_assoc, ← hsource,
                    String.ofList_toList]
                · rw [Text.utf8ByteSize_ofList, hposition]
                  rfl
                · rw [← String.ofList_append, Text.utf8ByteSize_ofList, byteLength_append]
                  simp only [Span.between]
                  omega
              · rw [← List.append_assoc] at hsource
                refine ih rest.length (length_lt_of_readToken hread) hsource ?_ hrest rfl
                rw [byteLength_append]
                omega

/-- The spans of all tokens of a source text leave the same bytes out. -/
theorem cuts_of_mem_lexSource {source : String} {lexeme : Lexeme}
    (h : lexeme ∈ (lexSource source).1)
    : Cuts source (uncountedBytes source) lexeme.span (String.ofList lexeme.token.written) := by
  unfold lexSource at h
  unfold uncountedBytes
  split at h
  · next chars hchars =>
      have hsource : source.toList = ['\uFEFF', '\uFEFF'] ++ chars := hchars
      rw [hchars]
      exact cuts_of_mem_lex hsource rfl h
  · next chars hsecond hchars =>
      have hsource : source.toList = ['\uFEFF'] ++ chars := hchars
      split
      · next others hothers =>
          exact (hsecond others (List.cons.inj (hchars.symm.trans hothers)).2).elim
      · exact cuts_of_mem_lex hsource rfl h
  · next hfirst =>
      split
      · next others hothers => exact absurd hothers (hfirst _)
      · exact cuts_of_mem_lex (List.nil_append _).symm rfl h

end Markup

end StoryAtlas
