import StoryAtlas.Proofs.Markup.SourceSpans

/-! The order of tokens in their source.
Tokens stand one behind the other without gaps, each of them has some bytes, and the place at
which they end lies behind all of them and inside the source.
-/

namespace StoryAtlas.Markup

open StoryAtlas.Text

/-- The place at which the tokens of a text end. -/
def Ending.position : Ending → Nat
  | complete position => position
  | broken _ position => position

/-- Spans in a row from one place of a source to another: each begins where the one before it
ends and is not empty.
-/
inductive InRow : Nat → List Span → Nat → Prop
  | nil {first last : Nat} (h : first ≤ last) : InRow first [] last
  | cons {span : Span} {rest : List Span} {first last : Nat} (hstart : span.start = first)
      (hbytes : first < span.stop) (h : InRow span.stop rest last)
      : InRow first (span :: rest) last

namespace InRow

variable {first last : Nat} {spans : List Span}

theorem le (h : InRow first spans last) : first ≤ last := by
  induction h with
  | nil h => exact h
  | cons _ hbytes _ ih => omega

/-- A span in a row stands between its ends. -/
theorem bounds_of_mem (h : InRow first spans last) {span : Span} (hmem : span ∈ spans)
    : first ≤ span.start ∧ span.start < span.stop ∧ span.stop ≤ last := by
  induction h with
  | nil => cases hmem
  | @cons head rest first last hstart hbytes hrest ih =>
      have hlast := hrest.le
      rcases List.mem_cons.1 hmem with rfl | hmem
      · omega
      · have hbounds := ih hmem
        omega

/-- Of two spans in a row the first one ends before the second one begins. -/
theorem pairwise (h : InRow first spans last)
    : spans.Pairwise fun span later => span.stop ≤ later.start := by
  induction h with
  | nil => exact .nil
  | cons _ _ hrest ih => exact .cons (fun later hlater => (hrest.bounds_of_mem hlater).1) ih

/-- Two spans in a row are the same, or one ends before the other begins. -/
theorem eq_or_apart (h : InRow first spans last) {span other : Span} (hspan : span ∈ spans)
    (hother : other ∈ spans)
    : span = other ∨ span.stop ≤ other.start ∨ other.stop ≤ span.start := by
  induction h with
  | nil => cases hspan
  | cons _ _ hrest ih =>
      cases hspan with
      | head =>
          cases hother with
          | head => exact Or.inl rfl
          | tail _ hother => exact Or.inr (Or.inl (hrest.bounds_of_mem hother).1)
      | tail _ hspan =>
          cases hother with
          | head => exact Or.inr (Or.inr (hrest.bounds_of_mem hspan).1)
          | tail _ hother => exact ih hspan hother

/-- The front of a row is a row. -/
theorem of_prefix {front : List Span} (h : InRow first spans last) (hfront : front <+: spans)
    : InRow first front last := by
  induction h generalizing front with
  | nil h => exact List.prefix_nil.1 hfront ▸ .nil h
  | @cons head rest first last hstart hbytes hrest ih =>
      cases front with
      | nil => exact .nil (Nat.le_of_lt (Nat.lt_of_lt_of_le hbytes hrest.le))
      | cons span front =>
          obtain ⟨rfl, htail⟩ := List.cons_prefix_cons.1 hfront
          exact .cons hstart hbytes (ih htail)

end InRow

-----------------------------------------------------------------------------------------
-- Faults
-----------------------------------------------------------------------------------------

/-- The place of a fault lies in the text.  Only a declaration without a name has its fault
behind its start, at the `>` that ends it.
-/
theorem offset_le_of_readDeclared {chars : List Char} {fault : TokenFault}
    (h : readDeclared chars = .error fault)
    : fault.offset ≤ 2 + byteLength chars := by
  unfold readDeclared at h
  split at h
  · split at h
    · cases h
      exact Nat.zero_le _
    · split at h <;> cases h
      exact Nat.zero_le _
  · split at h
    · cases h
      exact Nat.zero_le _
    · split at h <;> cases h
      exact Nat.zero_le _
  · split at h
    · split at h
      · cases h
        exact Nat.zero_le _
      · next body rest hsplit =>
          split at h
          · cases h
            exact Nat.zero_le _
          · split at h <;> cases h
            rw [eq_append_of_splitDoctype? hsplit, byteLength_append]
            exact Nat.add_le_add_left (Nat.le_add_right _ _) 2
    · cases h
      exact Nat.zero_le _
  · cases h
    exact Nat.zero_le _

theorem offset_le_of_readMarkup {chars : List Char} {fault : TokenFault}
    (h : readMarkup chars = .error fault)
    : fault.offset ≤ byteLength ('<' :: chars) := by
  unfold readMarkup at h
  split at h
  · split at h
    · cases h
      exact Nat.zero_le _
    · split at h <;> cases h
      exact Nat.zero_le _
  · next rest =>
      have hoffset := offset_le_of_readDeclared h
      have hbytes : byteLength ('<' :: '!' :: rest) = 2 + byteLength rest := by
        rw [byteLength_cons, byteLength_cons, ← Nat.add_assoc]
        rfl
      exact hbytes ▸ hoffset
  · split at h <;> cases h
    exact Nat.zero_le _
  · split at h <;> cases h
    exact Nat.zero_le _

theorem offset_le_of_readToken {c : Char} {chars : List Char} {fault : TokenFault}
    (h : readToken c chars = .error fault)
    : fault.offset ≤ byteLength (c :: chars) := by
  unfold readToken at h
  split at h
  · next hc => exact hc ▸ offset_le_of_readMarkup h
  · split at h
    · unfold readReference at h
      split at h <;> cases h
      exact Nat.zero_le _
    · cases h

-----------------------------------------------------------------------------------------
-- Tokens
-----------------------------------------------------------------------------------------

theorem Token.byteLength_written_pos (token : Token) : 0 < byteLength token.written := by
  obtain ⟨c, rest, hwritten⟩ := List.exists_cons_of_ne_nil token.written_ne_nil
  rw [hwritten, byteLength_cons]
  exact Nat.add_pos_left c.utf8Size_pos _

/-- The tokens of a text stand in a row from its start to the place where they end, which is
inside the text, by the recursion of the reading.
-/
theorem inRow_lex (position : Nat) (chars : List Char)
    : InRow position ((lex position chars).1.map Lexeme.span) (lex position chars).2.position
      ∧ (lex position chars).2.position ≤ position + byteLength chars := by
  induction hlength : chars.length using Nat.strong_induction_on generalizing position chars with
  | _ length ih =>
      subst hlength
      cases chars with
      | nil =>
          rw [lex]
          exact ⟨.nil (Nat.le_refl _), Nat.le_refl _⟩
      | cons c chars =>
          cases hread : readToken c chars with
          | error fault =>
              rw [lex_fault hread]
              exact ⟨.nil (Nat.le_add_right _ _),
                Nat.add_le_add_left (offset_le_of_readToken hread) _⟩
          | ok split =>
              obtain ⟨token, rest⟩ := split
              have hstop : (Span.between position (position + byteLength token.written)).stop
                  = position + byteLength token.written :=
                Nat.max_eq_left (Nat.le_add_right _ _)
              obtain ⟨hrow, hend⟩ := ih rest.length (length_lt_of_readToken hread)
                (position + byteLength token.written) rest rfl
              rw [lex_cons hread, readToken_split hread, byteLength_append, ← Nat.add_assoc]
              refine ⟨.cons rfl ?_ ?_, hend⟩
              · rw [hstop]
                exact Nat.lt_add_of_pos_right token.byteLength_written_pos
              · rw [hstop]
                exact hrow

/-- The spans of the tokens of a source text stand in a row, and end inside the source. -/
theorem inRow_lexSource (source : String)
    : (∃ first,
        InRow first ((lexSource source).1.map Lexeme.span) (lexSource source).2.position)
      ∧ (lexSource source).2.position ≤ source.utf8ByteSize := by
  rw [← Text.byteLength_toList]
  unfold lexSource
  split
  · next chars hchars =>
      obtain ⟨hrow, hend⟩ := inRow_lex 3 chars
      have hmarks : byteLength source.toList = 6 + byteLength chars := by
        rw [hchars, byteLength_cons, byteLength_cons, ← Nat.add_assoc]
        rfl
      exact ⟨⟨3, hrow⟩, by omega⟩
  · next chars _ hchars =>
      obtain ⟨hrow, hend⟩ := inRow_lex 3 chars
      have hmark : byteLength source.toList = 3 + byteLength chars := by
        rw [hchars, byteLength_cons]
        rfl
      exact ⟨⟨3, hrow⟩, by omega⟩
  · obtain ⟨hrow, hend⟩ := inRow_lex 0 source.toList
    exact ⟨⟨0, hrow⟩, by omega⟩

end StoryAtlas.Markup
