import Mathlib.Data.List.TakeWhile
import StoryAtlas.Proofs.Markup.References

/-! Tags read back.
The content of a written tag is cut into its name and its attributes as they were put together,
and gives an element with these attributes.
-/

namespace StoryAtlas.Markup

open StoryAtlas.Text

namespace Manuscript

-----------------------------------------------------------------------------------------
-- Attributes
-----------------------------------------------------------------------------------------

theorem Quote.isQuote_char (quote : Quote) : isQuote quote.char = true := by
  cases quote <;> rfl

theorem isKeyChar_of_not_mem {c : Char} (h : c ∉ markupChars) : isKeyChar c = true := by
  have hblank := isMarkupBlank_of_not_mem h
  simp only [markupChars, List.mem_cons, not_or] at h
  simp [isKeyChar, h, hblank]

/-- An attribute is taken off a tag if none with its name came before it. -/
theorem readAttributes_append {gap name value : List Char} {quote : Char}
    (hgap : ∀ c ∈ gap, isMarkupBlank c = true) (hname : IsName name)
    (hquote : isQuote quote = true) (hvalue : quote ∉ value) (position : Nat)
    {seen : List (List Char × Nat)} (hseen : seen.lookup name = none) (rest : List Char)
    : ∃ next start,
        readAttributes position seen (gap ++ (name ++ '=' :: quote :: (value ++ quote :: rest)))
          = .ok ⟨name, value⟩ :: readAttributes next ((name, start) :: seen) rest := by
  obtain ⟨first, others, rfl⟩ := List.exists_cons_of_ne_nil hname.1
  have hfirst := isMarkupBlank_of_not_mem (hname.2 first List.mem_cons_self)
  have hothers (c : Char) (hc : c ∈ others) : isKeyChar c = true :=
    isKeyChar_of_not_mem (hname.2 c (List.mem_cons_of_mem first hc))
  have hquoteBlank : isMarkupBlank quote = false := by
    rcases Bool.or_eq_true_iff.1 hquote with h | h <;> rw [beq_iff_eq.1 h] <;> rfl
  have hdrop := dropWhile_append_cons hgap hfirst
    (others ++ '=' :: quote :: (value ++ quote :: rest))
  have hkey := takeWhile_append_cons (c := '=') hothers rfl (quote :: (value ++ quote :: rest))
  have hafter := dropWhile_append_cons (c := '=') hothers rfl (quote :: (value ++ quote :: rest))
  have hequals := List.dropWhile_cons_of_neg (p := isMarkupBlank) (a := '=')
    (l := quote :: (value ++ quote :: rest)) (by decide)
  have hopen := List.dropWhile_cons_of_neg (p := isMarkupBlank) (a := quote)
    (l := value ++ quote :: rest) (by simp [hquoteBlank])
  have hsplit := splitOnce?_singleton hvalue rest
  rw [List.cons_append, readAttributes]
  split
  · next heq => simp [hdrop] at heq
  · next c chars heq =>
      obtain ⟨rfl, rfl⟩ : first = c ∧ _ = chars := by simpa [hdrop] using heq
      simp only [hkey, hafter]
      split
      · next heq => simp [hafter, hequals] at heq
      · next c chars heq =>
          obtain ⟨rfl, rfl⟩ : '=' = c ∧ _ = chars := by simpa [hafter, hequals] using heq
          simp only [if_pos, hseen]
          split
          · next heq => simp [hopen] at heq
          · next c chars heq =>
              obtain ⟨rfl, rfl⟩ : quote = c ∧ _ = chars := by simpa [hopen] using heq
              rw [if_pos hquote]
              split
              · next heq => simp [hsplit] at heq
              · next before after heq =>
                  obtain ⟨rfl, rfl⟩ : value = before ∧ rest = after := by
                    simpa [hsplit] using heq
                  exact ⟨_, _, rfl⟩

/-- The attributes of a tag are read as they were put together, by induction on the attributes to
come.  None of them was seen before.
-/
theorem readAttributes_written (attributes : List Attribute) (ending : Blanks) (position : Nat)
    (seen : List (List Char × Nat))
    (hdistinct : (attributes.map fun given => given.name.chars).Nodup)
    (hseen : ∀ given ∈ attributes, seen.lookup given.name.chars = none)
    : readAttributes position seen (attributes.flatMap Attribute.written ++ ending.chars)
      = attributes.map fun given => .ok ⟨given.name.chars, given.rawValue⟩ := by
  induction attributes generalizing position seen with
  | nil =>
      have hend : ending.chars.dropWhile isMarkupBlank = [] :=
        List.dropWhile_eq_nil_iff.2 ending.blank
      rw [List.flatMap_nil, List.nil_append, readAttributes]
      split
      · rfl
      · next heq => simp [hend] at heq
  | cons given rest ih =>
      obtain ⟨next, start, hread⟩ := readAttributes_append given.gap.blank given.name.isName
        given.quote.isQuote_char given.quote_not_mem_rawValue position
        (hseen given List.mem_cons_self) (rest.flatMap Attribute.written ++ ending.chars)
      have hwritten : (given :: rest).flatMap Attribute.written ++ ending.chars
          = given.gap.chars
            ++ (given.name.chars
              ++ '=' :: given.quote.char
                :: (given.rawValue
                  ++ given.quote.char :: (rest.flatMap Attribute.written ++ ending.chars))) := by
        simp [Attribute.written]
      rw [List.map_cons, List.nodup_cons] at hdistinct
      have hrest : ∀ other ∈ rest,
          ((given.name.chars, start) :: seen).lookup other.name.chars = none := by
        intro other hother
        have hne : other.name.chars ≠ given.name.chars := fun heq =>
          hdistinct.1 (heq ▸ List.mem_map_of_mem hother)
        rw [List.lookup_cons, beq_false_of_ne hne]
        exact hseen other (List.mem_cons_of_mem given hother)
      rw [hwritten, hread, ih next _ hdistinct.2 hrest, List.map_cons]

/-- The entries of written attributes are read without a problem. -/
theorem readTag_written (attributes : List Attribute) (span : Span)
    : Reader.readTag [] span
        (attributes.map fun given => .ok ⟨given.name.chars, given.rawValue⟩)
      = (attributes.map Attribute.entry, []) := by
  induction attributes with
  | nil => rfl
  | cons given rest ih =>
      rw [List.map_cons, Reader.readTag, ih, attributeValue_rawValue]
      rfl

-----------------------------------------------------------------------------------------
-- Tags
-----------------------------------------------------------------------------------------

theorem Blanks.unbroken (blanks : Blanks) : Unbroken blanks.chars := by
  refine unbroken_of_plain fun c hc => ?_
  have hblank := blanks.blank c hc
  constructor
  · rw [Bool.eq_false_iff]
    intro hquote
    rcases Bool.or_eq_true_iff.1 hquote with h | h <;> rw [beq_iff_eq.1 h] at hblank <;>
      exact absurd hblank (by decide)
  · rintro rfl
    exact absurd hblank (by decide)

theorem Attribute.unbroken (given : Attribute) : Unbroken given.written := by
  have hequals : Unbroken ['='] := unbroken_singleton rfl (by decide)
  have hvalue := unbroken_quoted given.quote.isQuote_char given.quote_not_mem_rawValue
  exact given.gap.unbroken.append (given.name.isName.unbroken.append (hequals.append hvalue))

theorem getLast?_append_ne {first second : List Char} {c : Char}
    (hfirst : first.getLast? ≠ some c) (hsecond : second.getLast? ≠ some c)
    : (first ++ second).getLast? ≠ some c := by
  rw [List.getLast?_append]
  cases hlast : second.getLast? with
  | none => simpa using hfirst
  | some d => simpa [hlast] using hsecond

/-- An attribute ends in its quote. -/
theorem Attribute.getLast?_ne (given : Attribute) : given.written.getLast? ≠ some '/' := by
  have hlast : given.written.getLast? = some given.quote.char := by
    simp [Attribute.written, List.getLast?_cons]
  rw [hlast]
  cases given.quote <;> decide

namespace Head

variable (head : Head)

/-- The attributes of the element. -/
def given : Attributes :=
  .ofList head.entries

theorem entries_given : head.given.entries = head.entries := by
  refine Attributes.entries_ofList ?_
  rw [entries, List.map_map]
  exact head.distinct

theorem names_nodup : (head.attributes.map fun given => given.name.chars).Nodup := by
  refine List.Nodup.of_map String.ofList ?_
  rw [List.map_map]
  exact head.distinct

/-- Behind the name of a tag there is a blank, or nothing. -/
theorem isMarkupBlank_of_mem_head? {c : Char}
    (h : c ∈ (head.attributes.flatMap Attribute.written ++ head.ending.chars).head?)
    : isMarkupBlank c = true := by
  cases hattributes : head.attributes with
  | nil =>
      rw [hattributes] at h
      exact head.ending.blank c (List.mem_of_mem_head? h)
  | cons given rest =>
      obtain ⟨blank, blanks, hgap⟩ := List.exists_cons_of_ne_nil given.apart
      have hblank := given.gap.blank blank (hgap ▸ List.mem_cons_self)
      rw [hattributes] at h
      simp only [List.flatMap_cons, Attribute.written, hgap, List.cons_append, List.head?_cons,
        Option.mem_some_iff] at h
      exact h ▸ hblank

theorem tagName_written : tagName head.written = head.tag.chars :=
  head.tag.isName.tagName_append fun _ hc => head.isMarkupBlank_of_mem_head? hc

theorem attributesOf_written
    : attributesOf head.written
      = head.attributes.map fun given => .ok ⟨given.name.chars, given.rawValue⟩ := by
  rw [attributesOf, tagName_written, written, List.drop_left]
  exact readAttributes_written head.attributes head.ending _ [] head.names_nodup fun _ _ => rfl

theorem unbroken : Unbroken head.written := by
  have hattributes : Unbroken (head.attributes.flatMap Attribute.written) := by
    induction head.attributes with
    | nil => exact unbroken_nil
    | cons given rest ih => exact given.unbroken.append ih
  exact head.tag.isName.unbroken.append (hattributes.append head.ending.unbroken)

theorem getLast?_ne : head.written.getLast? ≠ some '/' := by
  have hattributes : (head.attributes.flatMap Attribute.written).getLast? ≠ some '/' := by
    induction head.attributes with
    | nil => simp
    | cons given rest ih => exact getLast?_append_ne given.getLast?_ne ih
  have hending : head.ending.chars.getLast? ≠ some '/' := fun hlast =>
    absurd (head.ending.blank '/' (List.mem_of_getLast? hlast)) (by decide)
  exact getLast?_append_ne head.tag.isName.getLast?_ne (getLast?_append_ne hattributes hending)

/-- A start tag is read as one token. -/
theorem readToken_startTag (rest : List Char)
    : readToken '<' (head.written ++ '>' :: rest) = .ok (.startTag head.written, rest) :=
  Markup.readToken_startTag (head.tag.isName.beginsName _) head.unbroken head.getLast?_ne rest

/-- An empty tag is read as one token. -/
theorem readToken_emptyTag (rest : List Char)
    : readToken '<' (head.written ++ '/' :: '>' :: rest) = .ok (.emptyTag head.written, rest) :=
  Markup.readToken_emptyTag (head.tag.isName.beginsName _) head.unbroken rest

/-- An end tag is read as one token. -/
theorem readToken_endTag (rest : List Char)
    : readToken '<' ('/' :: (head.tag.chars ++ '>' :: rest))
      = .ok (.endTag head.tag.chars, rest) :=
  Markup.readToken_endTag head.tag.isName.unbroken rest

end Head

end Manuscript

end StoryAtlas.Markup
