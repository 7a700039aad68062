import StoryAtlas.Markup.Reader
import StoryAtlas.Proofs.Text.Cuts

/-! Reading token by token.
Reading what is left of a text with a reader is one definition, and each kind of token has an
equation that takes it off the text: the reader makes one step and goes on with the rest.
-/

namespace StoryAtlas.Markup

open StoryAtlas.Text

-----------------------------------------------------------------------------------------
-- What is left of a text
-----------------------------------------------------------------------------------------

theorem lex_cons {c : Char} {chars rest : List Char} {token : Token}
    (h : readToken c chars = .ok (token, rest)) (position : Nat)
    : lex position (c :: chars)
      = (⟨token, .between position (position + byteLength token.written)⟩
            :: (lex (position + byteLength token.written) rest).1,
          (lex (position + byteLength token.written) rest).2) := by
  rw [lex]
  split
  · next fault hfault => simp [h] at hfault
  · next token' rest' htoken =>
      obtain ⟨rfl, rfl⟩ : token = token' ∧ rest = rest' := by simpa [h] using htoken
      rfl

theorem lex_fault {c : Char} {chars : List Char} {fault : TokenFault}
    (h : readToken c chars = .error fault) (position : Nat)
    : lex position (c :: chars) = ([], .broken fault.cause (position + fault.offset)) := by
  rw [lex]
  split
  · next found hfound =>
      obtain rfl : fault = found := by simpa [h] using hfound
      rfl
  · next hfound => simp [h] at hfound

namespace Reader

/-- Reads what is left of a text from a byte position on, and ends reading. -/
def readFrom (reader : Reader) (position : Nat) (chars : List Char)
    : Except (List Problem) Document :=
  ((lex position chars).1.foldlM step reader).bind fun reader =>
    reader.finish (lex position chars).2

theorem readFrom_nil (reader : Reader) (position : Nat)
    : reader.readFrom position [] = reader.finish (.complete position) := by
  simp only [readFrom, lex, List.foldlM_nil]
  rfl

/-- A token is read by one step, in front of the rest. -/
theorem readFrom_cons {c : Char} {chars rest : List Char} {token : Token}
    (h : readToken c chars = .ok (token, rest)) (reader : Reader) (position : Nat)
    : reader.readFrom position (c :: chars)
      = (reader.step ⟨token, .between position (position + byteLength token.written)⟩).bind
          fun reader => reader.readFrom (position + byteLength token.written) rest := by
  rw [readFrom, lex_cons h, List.foldlM_cons]
  cases reader.step ⟨token, .between position (position + byteLength token.written)⟩ <;> rfl

end Reader

/-- A text that does not begin with a byte order mark is read from its start. -/
theorem readSource_eq_readFrom {source : String} (h : source.toList.head? ≠ some '\uFEFF')
    : readSource source = ({} : Reader).readFrom 0 source.toList := by
  have hlex : lexSource source = lex 0 source.toList := by
    unfold lexSource
    split
    · next hchars => simp [hchars] at h
    · next hchars => simp [hchars] at h
    · rfl
  rw [readSource, hlex]
  rfl

-----------------------------------------------------------------------------------------
-- Tags
-----------------------------------------------------------------------------------------

/-- A piece of a tag that the search for its end goes through. -/
def Unbroken (piece : List Char) : Prop :=
  ∀ rest, splitTag none (piece ++ rest)
    = (splitTag none rest).map fun split => (piece ++ split.1, split.2)

theorem unbroken_nil : Unbroken [] := by
  intro rest
  cases h : splitTag none rest <;> simp [Except.map, h]

theorem Unbroken.append {first second : List Char} (hfirst : Unbroken first)
    (hsecond : Unbroken second)
    : Unbroken (first ++ second) := by
  intro rest
  rw [List.append_assoc, hfirst, hsecond]
  cases splitTag none rest <;> simp [Except.map]

/-- A character that is no quote and does not end a tag. -/
theorem unbroken_singleton {c : Char} (hquote : isQuote c = false) (hend : c ≠ '>')
    : Unbroken [c] := by
  intro rest
  rw [List.singleton_append, splitTag, if_neg hend, hquote]
  rfl

theorem unbroken_of_plain {piece : List Char}
    (h : ∀ c ∈ piece, isQuote c = false ∧ c ≠ '>')
    : Unbroken piece := by
  induction piece with
  | nil => exact unbroken_nil
  | cons c piece ih =>
      have hc := h c List.mem_cons_self
      exact (unbroken_singleton hc.1 hc.2).append (ih fun d hd => h d (List.mem_cons_of_mem c hd))

/-- A scan in a quoted value goes on behind its closing quote, by induction on the value. -/
theorem splitTag_quoted {quote : Char} {value : List Char} (h : quote ∉ value)
    (rest : List Char)
    : splitTag (some quote) (value ++ quote :: rest)
      = (splitTag none rest).map fun split => (value ++ quote :: split.1, split.2) := by
  induction value with
  | nil =>
      rw [List.nil_append, splitTag, if_pos rfl]
      rfl
  | cons c value ih =>
      have hc : c ≠ quote := fun heq => h (heq ▸ List.mem_cons_self)
      have hvalue : quote ∉ value := fun hmem => h (List.mem_cons_of_mem c hmem)
      rw [List.cons_append, splitTag, if_neg hc, ih hvalue]
      cases splitTag none rest <;> simp [Except.map, consSplit]

theorem unbroken_quoted {quote : Char} {value : List Char} (hquote : isQuote quote = true)
    (h : quote ∉ value)
    : Unbroken (quote :: (value ++ [quote])) := by
  intro rest
  have hend : quote ≠ '>' := by
    rintro rfl
    exact absurd hquote (by decide)
  rw [List.cons_append, splitTag, if_neg hend, if_pos hquote, List.append_assoc,
    List.singleton_append, splitTag_quoted h]
  cases splitTag none rest <;> simp [Except.map, consSplit]

theorem Unbroken.splitTag_append {content : List Char} (h : Unbroken content)
    (rest : List Char)
    : splitTag none (content ++ '>' :: rest) = .ok (content, rest) := by
  rw [h]
  simp [splitTag, Except.map]

/-- Whether the content of a tag begins like a name, not like other markup. -/
def BeginsName (content : List Char) : Prop :=
  ∃ c others, content = c :: others ∧ c ≠ '?' ∧ c ≠ '!' ∧ c ≠ '/'

theorem readMarkup_of_beginsName {content : List Char} (hname : BeginsName content)
    (hcontent : Unbroken content) (rest : List Char)
    : readMarkup (content ++ '>' :: rest) = .ok (openingTag content, rest) := by
  obtain ⟨c, others, rfl, hinstruction, hdeclared, hend⟩ := hname
  have hsplit := hcontent.splitTag_append rest
  rw [List.cons_append] at hsplit ⊢
  unfold readMarkup
  split
  · next heq => exact absurd (List.cons.inj heq).1 hinstruction
  · next heq => exact absurd (List.cons.inj heq).1 hdeclared
  · next heq => exact absurd (List.cons.inj heq).1 hend
  · rw [hsplit]

theorem readToken_startTag {content : List Char} (hname : BeginsName content)
    (hcontent : Unbroken content) (hlast : content.getLast? ≠ some '/') (rest : List Char)
    : readToken '<' (content ++ '>' :: rest) = .ok (.startTag content, rest) := by
  rw [readToken, if_pos rfl, readMarkup_of_beginsName hname hcontent, openingTag, if_neg hlast]

theorem readToken_emptyTag {content : List Char} (hname : BeginsName content)
    (hcontent : Unbroken content) (rest : List Char)
    : readToken '<' (content ++ '/' :: '>' :: rest) = .ok (.emptyTag content, rest) := by
  have hslash : BeginsName (content ++ ['/']) := by
    obtain ⟨c, others, rfl, hc⟩ := hname
    exact ⟨c, others ++ ['/'], rfl, hc⟩
  have hunbroken := hcontent.append (unbroken_singleton (c := '/') rfl (by decide))
  have hread := readMarkup_of_beginsName hslash hunbroken rest
  rw [List.append_assoc, List.singleton_append] at hread
  rw [readToken, if_pos rfl, hread]
  simp [openingTag]

theorem readToken_endTag {content : List Char} (hcontent : Unbroken content) (rest : List Char)
    : readToken '<' ('/' :: (content ++ '>' :: rest)) = .ok (.endTag content, rest) := by
  rw [readToken, if_pos rfl, readMarkup, hcontent.splitTag_append]

-----------------------------------------------------------------------------------------
-- Names
-----------------------------------------------------------------------------------------

/-- The characters that mean something in markup or in front of it. -/
def markupChars : List Char :=
  ['<', '>', '/', '?', '!', '&', ';', '=', '"', '\'', ' ', '\t', '\r', '\n', '\uFEFF']

/-- A name: some characters, none of which means something in markup. -/
def IsName (chars : List Char) : Prop :=
  chars ≠ [] ∧ ∀ c ∈ chars, c ∉ markupChars

/-- A run of characters that satisfy a test is a name if no markup character satisfies it. -/
theorem isName_of_test {test : Char → Bool} (hmarkup : markupChars.any test = false)
    {chars : List Char} (hne : chars ≠ []) (h : ∀ c ∈ chars, test c = true)
    : IsName chars := by
  refine ⟨hne, fun c hc hmem => ?_⟩
  exact List.any_eq_false.1 hmarkup c hmem (h c hc)

theorem isMarkupBlank_of_not_mem {c : Char} (h : c ∉ markupChars) : isMarkupBlank c = false := by
  simp only [markupChars, List.mem_cons, not_or] at h
  simp [isMarkupBlank, h]

theorem isQuote_of_not_mem {c : Char} (h : c ∉ markupChars) : isQuote c = false := by
  simp only [markupChars, List.mem_cons, not_or] at h
  simp [isQuote, h]

namespace IsName

variable {name : List Char}

theorem unbroken (h : IsName name) : Unbroken name := by
  refine unbroken_of_plain fun c hc => ⟨isQuote_of_not_mem (h.2 c hc), ?_⟩
  rintro rfl
  exact h.2 _ hc (by decide)

theorem beginsName (h : IsName name) (rest : List Char) : BeginsName (name ++ rest) := by
  cases name with
  | nil => exact absurd rfl h.1
  | cons c others =>
      have hc := h.2 c List.mem_cons_self
      simp only [markupChars, List.mem_cons, not_or] at hc
      exact ⟨c, others ++ rest, rfl, hc.2.2.2.1, hc.2.2.2.2.1, hc.2.2.1⟩

theorem getLast?_ne (h : IsName name) : name.getLast? ≠ some '/' := by
  intro hlast
  exact h.2 '/' (List.mem_of_getLast? hlast) (by decide)

/-- The name of a tag reaches up to the first blank. -/
theorem tagName_append (h : IsName name) {rest : List Char}
    (hrest : ∀ c ∈ rest.head?, isMarkupBlank c = true)
    : tagName (name ++ rest) = name :=
  takeWhile_append_of_head (fun c hc => by simp [isMarkupBlank_of_not_mem (h.2 c hc)])
    fun c hc => by simp [hrest c hc]

theorem tagName_eq (h : IsName name) : tagName name = name := by
  simpa using @tagName_append name h [] (by simp)

/-- A tag that is only a name has no attributes. -/
theorem attributesOf_eq_nil (h : IsName name) : attributesOf name = [] := by
  rw [attributesOf, h.tagName_eq, List.drop_length, readAttributes]
  rfl

/-- The name of an end tag has no blanks to take off. -/
theorem dropEndWhile_eq (h : IsName name) : dropEndWhile isMarkupBlank name = name := by
  have hblank : name.reverse.dropWhile isMarkupBlank = name.reverse := by
    cases hreverse : name.reverse with
    | nil => rfl
    | cons c others =>
        have hmem : c ∈ name := List.mem_reverse.1 (hreverse ▸ List.mem_cons_self)
        exact List.dropWhile_cons_of_neg (by simp [isMarkupBlank_of_not_mem (h.2 c hmem)])
  rw [dropEndWhile, hblank, List.reverse_reverse]

/-- An end tag that is a name closes the innermost element if it has this name. -/
theorem closeElement_eq (h : IsName name) (reader : Reader) (span : Span)
    : reader.closeElement name span
      = match reader.opened with
        | [] =>
            .error (reader.stop (reader.malformed (.unmatchedEnd (String.ofList name)) span.start))
        | element :: others =>
            if element.tag = String.ofList name then .ok { reader with opened := others }
            else
              .error
                (reader.stop
                  (reader.malformed (.mismatchedEnd element.tag (String.ofList name))
                    span.start)) := by
  unfold Reader.closeElement
  cases reader.opened with
  | nil => simp only [h.dropEndWhile_eq, ite_self]
  | cons element others => simp only [h.dropEndWhile_eq, ite_self]

end IsName

-----------------------------------------------------------------------------------------
-- Runs of text
-----------------------------------------------------------------------------------------

theorem readToken_textChar {c : Char} (h : isTextChar c = true) (rest : List Char)
    : readToken c rest
      = .ok (.text c (rest.takeWhile isTextChar), rest.dropWhile isTextChar) := by
  have hne : c ≠ '<' ∧ c ≠ '&' := by simpa [isTextChar] using h
  rw [readToken, if_neg hne.1, if_neg hne.2]

/-- A run of text reaches up to the next markup or reference. -/
theorem readToken_text {c : Char} {others rest : List Char} (hc : isTextChar c = true)
    (hothers : ∀ d ∈ others, isTextChar d = true)
    (hrest : ∀ d ∈ rest.head?, isTextChar d = false)
    : readToken c (others ++ rest) = .ok (.text c others, rest) := by
  rw [readToken_textChar hc, takeWhile_append_of_head hothers hrest,
    dropWhile_append_of_head hothers hrest]

-----------------------------------------------------------------------------------------
-- Other markup
-----------------------------------------------------------------------------------------

theorem isReferenceChar_of_not_mem {c : Char} (h : c ∉ markupChars)
    : isReferenceChar c = true := by
  simp only [markupChars, List.mem_cons, not_or] at h
  simp [isReferenceChar, isTextChar, h]

theorem readToken_reference {name : List Char} (h : IsName name) (rest : List Char)
    : readToken '&' (name ++ ';' :: rest) = .ok (.reference name, rest) := by
  have hname : ∀ c ∈ name, isReferenceChar c = true := fun c hc =>
    isReferenceChar_of_not_mem (h.2 c hc)
  have htake := takeWhile_append_cons (c := ';') hname rfl rest
  have hdrop := dropWhile_append_cons (c := ';') hname rfl rest
  rw [readToken, if_neg (by decide), if_pos rfl, readReference, htake, hdrop]
  rfl

theorem readToken_cdata {chars : List Char} (h : ¬ [']', ']', '>'] <:+: chars)
    (rest : List Char)
    : readToken '<'
        ('!' :: '[' :: 'C' :: 'D' :: 'A' :: 'T' :: 'A' :: '['
          :: (chars ++ ']' :: ']' :: '>' :: rest))
      = .ok (.cdata chars, rest) := by
  have hsplit := @splitOnce?_of_absent [']', ']'] chars '>' (by decide) h rest
  simp only [List.cons_append, List.nil_append] at hsplit
  rw [readToken, if_pos rfl, readMarkup, readDeclared]
  simp only [dropPiece?, if_pos, hsplit]

theorem readToken_comment {body : List Char} (h : ¬ ['-', '-', '>'] <:+: body)
    (rest : List Char)
    : readToken '<' ('!' :: '-' :: '-' :: (body ++ '-' :: '-' :: '>' :: rest))
      = .ok (.comment body, rest) := by
  have hsplit := @splitOnce?_of_absent ['-', '-'] body '>' (by decide) h rest
  simp only [List.cons_append, List.nil_append] at hsplit
  rw [readToken, if_pos rfl, readMarkup, readDeclared]
  simp only [dropPiece?, if_pos, hsplit]

theorem readToken_instruction {body : List Char} (hbegin : body.head? ≠ some '>')
    (hne : body ≠ []) (h : ¬ ['?', '>'] <:+: body) (rest : List Char)
    : readToken '<' ('?' :: (body ++ '?' :: '>' :: rest)) = .ok (.instruction body, rest) := by
  have hsplit := @splitOnce?_of_absent ['?'] body '>' (by decide) h rest
  simp only [List.cons_append, List.nil_append] at hsplit
  have hhead : (body ++ '?' :: '>' :: rest).head? ≠ some '>' := by
    rwa [List.head?_append_of_ne_nil _ hne]
  rw [readToken, if_pos rfl, readMarkup, if_neg hhead, hsplit]

-----------------------------------------------------------------------------------------
-- Line breaks
-----------------------------------------------------------------------------------------

/-- Turning line breaks into line feeds turns blanks into blanks. -/
theorem isAllBlank_normalizeLineBreaks (chars : List Char)
    : isAllBlank (normalizeLineBreaks chars) = isAllBlank chars := by
  have hreturn : isBlank '\r' = true := by decide
  have hfeed : isBlank '\n' = true := by decide
  unfold isAllBlank
  fun_induction normalizeLineBreaks chars with
  | case1 => rfl
  | case2 rest ih => simp [ih, hreturn, hfeed]
  | case3 c rest _ ih =>
      rw [List.all_cons, List.all_cons, ih]
      split
      · next hc => rw [hc, hreturn, hfeed]
      · rfl

theorem normalizeLineBreaks_cons {c : Char} (h : c ≠ '\r') (chars : List Char)
    : normalizeLineBreaks (c :: chars) = c :: normalizeLineBreaks chars := by
  rw [normalizeLineBreaks, if_neg h]
  exact fun _ hc _ => h hc

theorem normalizeLineBreaks_of_not_mem {chars : List Char} (h : '\r' ∉ chars)
    : normalizeLineBreaks chars = chars := by
  induction chars with
  | nil => rfl
  | cons c chars ih =>
      have hc : c ≠ '\r' := fun heq => h (heq ▸ List.mem_cons_self)
      rw [normalizeLineBreaks_cons hc, ih fun hmem => h (List.mem_cons_of_mem c hmem)]

end StoryAtlas.Markup
