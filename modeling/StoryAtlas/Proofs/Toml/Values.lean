import StoryAtlas.Proofs.Text.Cuts
import StoryAtlas.Proofs.Text.Lexing
import StoryAtlas.Proofs.Toml.Manuscript

/-! Written TOML values.
Texts in either kind of quotes, lists of them and counts are read as what was written, whatever
stands behind them, as long as it ends a value.
-/

namespace StoryAtlas.Toml

open StoryAtlas.Settings StoryAtlas.Text
open Manuscript

/-- What may stand behind a value on its line. -/
def EndsValue (rest : List Char) : Prop :=
  ∀ c ∈ rest.head?, c = ',' ∨ c = ']' ∨ c = '\n'

theorem endsValue_cons {c : Char} (h : c = ',' ∨ c = ']' ∨ c = '\n') (rest : List Char)
    : EndsValue (c :: rest) := by
  intro d hd
  rw [List.head?_cons, Option.mem_some_iff] at hd
  exact hd ▸ h

-----------------------------------------------------------------------------------------
-- Characters by their number
-----------------------------------------------------------------------------------------

/-- Digits are read alike, whatever stands behind them. -/
theorem hexValue?_append (digits rest : List Char)
    : hexValue? digits.length (digits ++ rest)
      = (hexValue? digits.length digits).map fun (code, _) => (code, rest) := by
  unfold hexValue?
  dsimp only
  rw [List.take_left, List.take_length, List.drop_left]
  split <;> rfl

theorem hexValue?_hexDigits {code : Nat} (h : code < 128) (rest : List Char)
    : hexValue? 4
          ('0' :: '0' :: Render.hexDigit (code / 16) :: Render.hexDigit (code % 16) :: rest)
      = some (code, rest) := by
  have hall : ∀ code : Fin 128,
      hexValue? 4 ['0', '0', Render.hexDigit (code / 16), Render.hexDigit (code % 16)]
      = some (code.val, []) := by
    decide +kernel
  have happend := hexValue?_append
    ['0', '0', Render.hexDigit (code / 16), Render.hexDigit (code % 16)] rest
  exact happend.trans (congrArg _ (hall ⟨code, h⟩))

theorem toNat_lt_of_isControl {c : Char} (h : isControl c = true) : c.toNat < 128 := by
  simp only [isControl, Bool.or_eq_true, Bool.and_eq_true, decide_eq_true_eq, beq_iff_eq] at h
  omega

/-- A control that is given by its number is read. -/
theorem readEscape_control {c : Char} (h : isControl c = true) (rest : List Char)
    : readEscape
          ('u' :: '0' :: '0' :: Render.hexDigit (c.toNat / 16) :: Render.hexDigit (c.toNat % 16)
            :: rest)
      = .ok (c, rest) := by
  have hvalid : c.toNat.isValidChar := c.valid
  have hread (chars : List Char) : readEscape ('u' :: chars) = readNumbered 4 chars := rfl
  rw [hread, readNumbered, hexValue?_hexDigits (toNat_lt_of_isControl h)]
  dsimp only
  rw [dif_pos hvalid]
  exact congrArg (fun char => Except.ok (char, rest)) (Char.toNat_inj.1 rfl)

-----------------------------------------------------------------------------------------
-- Texts
-----------------------------------------------------------------------------------------

/-- A character that stands for itself is read. -/
theorem readLine_cons {quote c : Char} (hquote : c ≠ quote) (hescape : c = '\\' → quote ≠ '"')
    (hcontrol : isControl c = false) (steps : Nat) (rest : List Char)
    : readLine quote (steps + 1) (c :: rest) = (readLine quote steps rest).map (consRead c) := by
  rw [readLine, if_neg hquote, if_neg (fun h => hescape h.1 h.2), hcontrol]
  rfl

/-- An escape is read as the character it stands for. -/
theorem readLine_escape (escape : List Char) {c : Char} {rest : List Char}
    (h : readEscape (escape ++ rest) = .ok (c, rest)) (steps : Nat)
    : readLine '"' (steps + 1) ('\\' :: (escape ++ rest))
      = (readLine '"' steps rest).map (consRead c) := by
  rw [readLine, if_neg (by decide), if_pos (by decide), h]

theorem readLine_basicChar (c : Char) (steps : Nat) (rest : List Char)
    : readLine '"' (steps + 1) (basicChar c ++ rest)
      = (readLine '"' steps rest).map (consRead c) := by
  unfold basicChar
  split
  · next hmarked =>
      refine readLine_escape [c] ?_ steps
      rcases hmarked with rfl | rfl <;> rfl
  · next hplain =>
      rw [not_or] at hplain
      split
      · next hcontrol =>
          exact readLine_escape
            ['u', '0', '0', Render.hexDigit (c.toNat / 16), Render.hexDigit (c.toNat % 16)]
            (readEscape_control hcontrol rest) steps
      · next hcontrol =>
          exact readLine_cons hplain.1 (fun h => absurd h hplain.2)
            (Bool.eq_false_iff.2 hcontrol) steps rest

/-- A text in double quotes is read to its end, by induction on its characters. -/
theorem readLine_basic (text rest : List Char) {steps : Nat} (h : text.length < steps)
    : readLine '"' steps (text.flatMap basicChar ++ '"' :: rest) = .ok (text, rest) := by
  induction text generalizing steps with
  | nil =>
      obtain ⟨steps, rfl⟩ := Nat.exists_eq_add_one_of_ne_zero (Nat.ne_zero_of_lt h)
      rw [List.flatMap_nil, List.nil_append, readLine, if_pos rfl]
  | cons c text ih =>
      obtain ⟨steps, rfl⟩ := Nat.exists_eq_add_one_of_ne_zero (Nat.ne_zero_of_lt h)
      rw [List.length_cons] at h
      rw [List.flatMap_cons, List.append_assoc, readLine_basicChar, ih (by omega)]
      rfl

/-- A text in single quotes is read to its end, by induction on its characters. -/
theorem readLine_literal {text : List Char}
    (hplain : ∀ c ∈ text, c ≠ '\'' ∧ isControl c = false) (rest : List Char) {steps : Nat}
    (h : text.length < steps)
    : readLine '\'' steps (text ++ '\'' :: rest) = .ok (text, rest) := by
  induction text generalizing steps with
  | nil =>
      obtain ⟨steps, rfl⟩ := Nat.exists_eq_add_one_of_ne_zero (Nat.ne_zero_of_lt h)
      rw [List.nil_append, readLine, if_pos rfl]
  | cons c text ih =>
      obtain ⟨steps, rfl⟩ := Nat.exists_eq_add_one_of_ne_zero (Nat.ne_zero_of_lt h)
      rw [List.length_cons] at h
      obtain ⟨⟨hquote, hcontrol⟩, hothers⟩ := List.forall_mem_cons.1 hplain
      rw [List.cons_append, readLine_cons hquote (fun _ => by decide) hcontrol,
        ih hothers (by omega)]
      rfl

/-- A text that does not begin with two quotes more is read on its line. -/
theorem readString_of_readLine {quote : Char} {chars text rest : List Char}
    (hone : ∀ tail, chars ≠ quote :: quote :: tail)
    (h : readLine quote (chars.length + 1) chars = .ok (text, rest))
    : readString quote chars = .ok (String.ofList text, rest) := by
  unfold readString
  dsimp only
  split
  · next first second tail =>
      rw [if_neg (by rintro ⟨rfl, rfl⟩; exact hone tail rfl), h]
      rfl
  · rw [h]
    rfl

/-- A character between double quotes is written as something, which does not end the text. -/
theorem basicChar_eq_cons (c : Char)
    : ∃ first others, basicChar c = first :: others ∧ first ≠ '"' := by
  unfold basicChar
  split
  · exact ⟨_, _, rfl, by decide⟩
  · next hplain =>
      split
      · exact ⟨_, _, rfl, by decide⟩
      · exact ⟨_, _, rfl, fun h => hplain (.inl h)⟩

theorem length_le_flatMap_basicChar (text : List Char)
    : text.length ≤ (text.flatMap basicChar).length := by
  induction text with
  | nil => exact Nat.le_refl 0
  | cons c text ih =>
      obtain ⟨first, others, hchar, -⟩ := basicChar_eq_cons c
      rw [List.flatMap_cons, List.length_append, hchar, List.length_cons, List.length_cons]
      omega

/-- Only the empty text has a quote right behind its first one. -/
theorem ne_of_endsValue {quote : Char} {inside rest : List Char}
    (hinside : ∀ c ∈ inside.head?, c ≠ quote) (hquote : quote = '"' ∨ quote = '\'')
    (hends : EndsValue rest) (tail : List Char)
    : inside ++ quote :: rest ≠ quote :: quote :: tail := by
  intro heq
  cases inside with
  | cons c inside => exact hinside c rfl (List.cons.inj heq).1
  | nil =>
      have hrest : rest = quote :: tail := (List.cons.inj heq).2
      have hquoted := hends quote (by rw [hrest]; rfl)
      rcases hquote with rfl | rfl <;> simp at hquoted

/-- What is written between double quotes does not begin with one. -/
theorem head?_flatMap_basicChar_ne (text : List Char)
    : ∀ c ∈ (text.flatMap basicChar).head?, c ≠ '"' := by
  intro c hc
  cases text with
  | nil => cases hc
  | cons d others =>
      obtain ⟨first, more, hchar, hfirst⟩ := basicChar_eq_cons d
      rw [List.flatMap_cons, hchar, List.cons_append, List.head?_cons, Option.mem_some_iff] at hc
      exact hc ▸ hfirst

/-- A text between quotes is a value if it is read up to the closing quote. -/
theorem readValue_quoted {quote : Char} {inside rest : List Char} {text : String}
    (hquote : quote = '"' ∨ quote = '\'') (hinside : ∀ c ∈ inside.head?, c ≠ quote)
    (hends : EndsValue rest)
    (hline
      : readLine quote ((inside ++ quote :: rest).length + 1) (inside ++ quote :: rest)
        = .ok (text.toList, rest))
    (steps : Nat)
    : readValue (steps + 1) (quote :: (inside ++ [quote]) ++ rest) = .ok (.text text, rest) := by
  have hstring := readString_of_readLine (ne_of_endsValue hinside hquote hends) hline
  rw [List.cons_append, List.append_assoc, List.singleton_append, readValue, if_pos hquote, hstring,
    String.ofList_toList]
  rfl

/-- A written text is read as what it says. -/
theorem readValue_quotation (quotation : Quotation) {rest : List Char} (h : EndsValue rest)
    (steps : Nat)
    : readValue (steps + 1) (quotation.written ++ rest) = .ok (.text quotation.text, rest) := by
  cases quotation with
  | basic text =>
      have hlength := length_le_flatMap_basicChar text.toList
      refine readValue_quoted (.inl rfl) (head?_flatMap_basicChar_ne text.toList) h ?_ steps
      refine readLine_basic text.toList rest ?_
      rw [List.length_append, List.length_cons]
      omega
  | literal text allowed =>
      have hinside : ∀ c ∈ text.toList.head?, c ≠ '\'' := fun c hc =>
        (allowed c (List.mem_of_head? hc)).1
      refine readValue_quoted (.inr rfl) hinside h ?_ steps
      refine readLine_literal allowed rest ?_
      rw [List.length_append, List.length_cons]
      omega

-----------------------------------------------------------------------------------------
-- Counts
-----------------------------------------------------------------------------------------

/-- Digits alone are a number without underscores, by induction on them. -/
theorem digits?_of_isDigit {digits : List Char} (hne : digits ≠ [])
    (h : ∀ c ∈ digits, c.isDigit = true)
    : digits? Char.isDigit digits = some digits := by
  induction digits with
  | nil => exact absurd rfl hne
  | cons c digits ih =>
      obtain ⟨hc, hdigits⟩ := List.forall_mem_cons.1 h
      cases digits with
      | nil => rw [digits?, if_pos hc]
      | cons d digits =>
          have hd : d ≠ '_' := by
            rintro rfl
            exact absurd (hdigits '_' List.mem_cons_self) (by decide)
          have hrest := ih (List.cons_ne_nil _ _) hdigits
          rw [digits?, if_pos hc, hrest]
          · rfl
          · simp
          · simpa using hd

theorem isDigit_of_mem_toDigits (value : Nat) {c : Char} (h : c ∈ Nat.toDigits 10 value)
    : c.isDigit = true :=
  Nat.isDigit_of_mem_toDigits (by decide) (by decide) h

/-- Only zero begins with the digit zero, by induction on the number without its last digit. -/
theorem head?_toDigits_ne {value : Nat} (h : value ≠ 0)
    : (Nat.toDigits 10 value).head? ≠ some '0' := by
  induction value using Nat.strongRecOn with
  | ind value ih =>
      rw [Nat.toDigits_eq_if (by decide)]
      split
      · next hlt =>
          have hall : ∀ digit < 10, digit ≠ 0 → some (Nat.digitChar digit) ≠ some '0' := by
            decide
          exact hall value hlt h
      · rw [List.head?_append_of_ne_nil _ Nat.toDigits_ne_nil]
        exact ih (value / 10) (by omega) (by omega)

/-- Digits are worth the same to this reader as to the library. -/
theorem valueOf_of_isDigit {digits : List Char} (h : ∀ c ∈ digits, c.isDigit = true)
    : valueOf 10 digits = Nat.ofDigitChars 10 digits 0 := by
  unfold valueOf Nat.ofDigitChars
  refine List.foldl_ext _ _ 0 fun value c hc => ?_
  rw [h c hc, if_pos rfl, Nat.mul_comm]

theorem decimal?_toDigits (value : Nat) : decimal? (Nat.toDigits 10 value) = some value := by
  have hall : ∀ c ∈ Nat.toDigits 10 value, c.isDigit = true := fun c =>
    isDigit_of_mem_toDigits value
  have hvalue := (valueOf_of_isDigit hall).trans Nat.ofDigitChars_ten_toDigits
  unfold decimal?
  rw [digits?_of_isDigit Nat.toDigits_ne_nil hall]
  split
  · next c rest heq =>
      by_cases hzero : value = 0
      · subst hzero
        cases heq
      · have hhead := head?_toDigits_ne hzero
        rw [Option.some.inj heq] at hhead
        exact absurd rfl hhead
  · next digits _ heq => rw [← Option.some.inj heq, hvalue]
  · next heq => cases heq

/-- The digits of a number are no number in another base and have no sign. -/
theorem integer?_toDigits (value : Nat)
    : integer? (Nat.toDigits 10 value) = some (value : Int) := by
  have hall : ∀ c ∈ Nat.toDigits 10 value, c.isDigit = true := fun c =>
    isDigit_of_mem_toDigits value
  have hnot {c : Char} (hc : c.isDigit = false) : c ∉ Nat.toDigits 10 value := fun hmem =>
    Bool.eq_false_iff.1 hc (hall c hmem)
  have hsign : takeSign (Nat.toDigits 10 value) = (false, Nat.toDigits 10 value) := by
    unfold takeSign
    split
    · next heq => exact absurd (heq ▸ List.mem_cons_self) (hnot (c := '+') (by decide))
    · next heq => exact absurd (heq ▸ List.mem_cons_self) (hnot (c := '-') (by decide))
    · rfl
  unfold integer?
  dsimp only
  split
  · next heq => exact absurd (heq ▸ by simp) (hnot (c := 'x') (by decide))
  · next heq => exact absurd (heq ▸ by simp) (hnot (c := 'o') (by decide))
  · next heq => exact absurd (heq ▸ by simp) (hnot (c := 'b') (by decide))
  · rw [hsign, decimal?_toDigits]
    rfl

/-- The digits of a number are no truth value. -/
theorem scalar?_toDigits (value : Nat)
    : scalar? (Nat.toDigits 10 value) = some (.integer value) := by
  have hword {word : List Char} {c : Char} (hmem : c ∈ word) (hc : c.isDigit = false)
      : Nat.toDigits 10 value ≠ word := by
    rintro rfl
    exact Bool.eq_false_iff.1 hc (isDigit_of_mem_toDigits value hmem)
  unfold scalar?
  rw [if_neg (hword (c := 't') (by simp) (by decide)),
    if_neg (hword (c := 'f') (by simp) (by decide)), integer?_toDigits]

/-- A scalar goes as far as its characters. -/
theorem scalarRun_append {run rest : List Char} (hrun : ∀ c ∈ run, isScalarChar c = true)
    (h : EndsValue rest)
    : scalarRun (run ++ rest) = (run, rest) := by
  have hrest : ∀ c ∈ rest.head?, isScalarChar c = false := by
    intro c hc
    rcases h c hc with rfl | rfl | rfl <;> decide
  unfold scalarRun
  dsimp only
  rw [takeWhile_append_of_head hrun hrest, List.drop_left]
  split
  · exact absurd (h ' ' rfl) (by decide)
  · rfl

/-- A written number is read as what it says. -/
theorem readScalar_toDigits (value : Nat) {rest : List Char} (h : EndsValue rest)
    : readScalar (Nat.toDigits 10 value ++ rest) = .ok (.integer value, rest) := by
  have hrun : ∀ c ∈ Nat.toDigits 10 value, isScalarChar c = true := by
    intro c hc
    simp [isScalarChar, Char.isAlphanum, isDigit_of_mem_toDigits value hc]
  unfold readScalar
  rw [scalarRun_append hrun h]
  dsimp only
  rw [scalar?_toDigits]

-----------------------------------------------------------------------------------------
-- Gaps
-----------------------------------------------------------------------------------------

/-- A blank or a line end is passed over. -/
theorem skipTrivia_blank {c : Char} (h : isSpace c = true ∨ c = '\n') (rest : List Char)
    : skipTrivia false (c :: rest) = skipTrivia false rest := by
  have hreturn : c ≠ '\r' := by
    rintro rfl
    exact absurd h (by decide)
  rw [skipTrivia, if_pos h]
  exact fun _ heq => absurd heq hreturn

/-- A comment is passed over with its line, by induction on its characters. -/
theorem skipTrivia_comment {body : List Char} (h : ∀ c ∈ body, isControl c = false)
    (rest : List Char)
    : skipTrivia true (body ++ '\n' :: rest) = skipTrivia false rest := by
  induction body with
  | nil => rw [List.nil_append, skipTrivia, if_pos rfl]; simp
  | cons c body ih =>
      obtain ⟨hc, hbody⟩ := List.forall_mem_cons.1 h
      have hreturn : c ≠ '\r' := by
        rintro rfl
        exact absurd hc (by decide)
      have hfeed : c ≠ '\n' := by
        rintro rfl
        exact absurd hc (by decide)
      rw [List.cons_append, skipTrivia, if_neg hfeed, hc, ih hbody]
      · rfl
      · exact fun _ heq => absurd heq hreturn

theorem skipTrivia_gap (gap : Gap) (rest : List Char)
    : skipTrivia false (gap.written ++ rest) = skipTrivia false rest := by
  cases gap with
  | blank char allowed => exact skipTrivia_blank allowed rest
  | comment body allowed =>
      have hopen : skipTrivia false ('#' :: (body ++ ['\n'] ++ rest))
          = skipTrivia true (body ++ ['\n'] ++ rest) := by
        rw [skipTrivia, if_neg (by decide), if_pos rfl]
        simp
      rw [Gap.written, List.cons_append, hopen, List.append_assoc]
      exact skipTrivia_comment allowed rest

/-- Gaps in front of a line are passed over, by induction on them. -/
theorem skipTrivia_gaps (gaps : List Gap) (rest : List Char)
    : skipTrivia false (gaps.flatMap Gap.written ++ rest) = skipTrivia false rest := by
  induction gaps with
  | nil => rfl
  | cons gap gaps ih => rw [List.flatMap_cons, List.append_assoc, skipTrivia_gap, ih]

/-- Whether a character begins something that means something. -/
def isMeaningful (c : Char) : Bool :=
  !(isSpace c || c == '\n' || c == '\r' || c == '#')

theorem skipTrivia_of_isMeaningful {c : Char} (h : isMeaningful c = true) (rest : List Char)
    : skipTrivia false (c :: rest) = .ok (c :: rest) := by
  simp only [isMeaningful, Bool.not_eq_true', Bool.or_eq_false_iff, beq_eq_false_iff_ne] at h
  obtain ⟨⟨⟨hspace, hfeed⟩, hreturn⟩, hcomment⟩ := h
  rw [skipTrivia, if_neg (by simp [hspace, hfeed]), if_neg hcomment]
  exact fun _ heq => absurd heq hreturn

-----------------------------------------------------------------------------------------
-- Lists
-----------------------------------------------------------------------------------------

/-- A written text begins with a quote. -/
theorem written_eq_cons (quotation : Quotation)
    : ∃ quote rest, quotation.written = quote :: rest ∧ (quote = '"' ∨ quote = '\'') := by
  cases quotation with
  | basic text => exact ⟨_, _, rfl, .inl rfl⟩
  | literal text _ => exact ⟨_, _, rfl, .inr rfl⟩

/-- The text at the front of the items of a list is read. -/
theorem readItems_quotation (quotation : Quotation) {rest : List Char} (h : EndsValue rest)
    (steps : Nat)
    : readItems (steps + 2) (quotation.written ++ rest)
      = (do
          match ← skipTrivia false rest with
          | ',' :: rest => do
              let (items, rest) ← readItems (steps + 1) rest
              .ok (.text quotation.text :: items, rest)
          | ']' :: rest => .ok ([.text quotation.text], rest)
          | _ => .error .unexpectedCharacter) := by
  have hread := readValue_quotation quotation h steps
  obtain ⟨quote, inside, hwritten, hquote⟩ := written_eq_cons quotation
  rw [hwritten, List.cons_append] at hread ⊢
  have hmeaningful : isMeaningful quote = true := by rcases hquote with rfl | rfl <;> decide
  have hopen : quote ≠ ']' := by rcases hquote with rfl | rfl <;> decide
  rw [readItems, skipTrivia_of_isMeaningful hmeaningful]
  simp only [bind, Except.bind]
  split
  · next heq => exact absurd (List.cons.inj heq).1 hopen
  · exact hread ▸ rfl

/-- The first text of a list and those behind it are read, by induction on the latter. -/
theorem readItems_quotations (first : Quotation) (others : List Quotation) (rest : List Char)
    {steps : Nat} (h : others.length + 1 < steps)
    : readItems steps
          (first.written
            ++ (others.flatMap (fun item => ',' :: ' ' :: item.written) ++ ']' :: rest))
      = .ok ((first :: others).map fun item => .text item.text, rest) := by
  induction others generalizing first steps with
  | nil =>
      have htwo : 2 ≤ steps := h
      obtain ⟨steps, rfl⟩ := Nat.exists_eq_add_of_le' htwo
      rw [List.flatMap_nil, List.nil_append,
        readItems_quotation first (endsValue_cons (by simp) rest),
        skipTrivia_of_isMeaningful (by decide)]
      rfl
  | cons next others ih =>
      rw [List.length_cons] at h
      have htwo : 2 ≤ steps := by omega
      obtain ⟨steps, rfl⟩ := Nat.exists_eq_add_of_le' htwo
      have hless : others.length + 1 < steps + 1 := by omega
      have hrest := ih next hless
      have hblank (chars : List Char)
          : readItems (steps + 1) (' ' :: chars) = readItems (steps + 1) chars := by
        rw [readItems, readItems, skipTrivia_blank (by decide)]
      rw [List.flatMap_cons, List.append_assoc, List.cons_append, List.cons_append,
        readItems_quotation first (endsValue_cons (by simp) _),
        skipTrivia_of_isMeaningful (by decide)]
      simp only [bind, Except.bind, hblank, hrest]
      rfl

theorem length_le_flatMap_written (items : List Quotation)
    : items.length ≤ (items.flatMap fun item => ',' :: ' ' :: item.written).length := by
  induction items with
  | nil => exact Nat.le_refl 0
  | cons item items ih =>
      rw [List.flatMap_cons, List.length_append, List.length_cons, List.length_cons,
        List.length_cons]
      omega

/-- A written list is read as what it says. -/
theorem readValue_texts (items : List Quotation) (rest : List Char) {steps : Nat}
    (hsteps : (Content.texts items).written.length ≤ steps)
    : readValue (steps + 1) ((Content.texts items).written ++ rest)
      = .ok ((Content.texts items).value, rest) := by
  rw [Content.written] at hsteps ⊢
  rw [List.cons_append, readValue, if_neg (by decide), if_pos rfl, List.append_assoc,
    List.singleton_append]
  cases items with
  | nil =>
      obtain ⟨steps, rfl⟩ := Nat.exists_eq_add_of_le' (Nat.one_le_of_lt hsteps)
      have hempty : readItems (steps + 1) (']' :: rest) = .ok ([], rest) := by
        rw [readItems, skipTrivia_of_isMeaningful (by decide)]
        rfl
      exact congrArg (Except.map _) hempty
  | cons first others =>
      rw [List.map_cons, intercalate_cons, List.flatMap_map] at hsteps ⊢
      have hlength := length_le_flatMap_written others
      have hless : others.length + 1 < steps := by
        simp only [List.length_cons, List.length_append, List.cons_append, List.nil_append]
          at hsteps
        omega
      rw [List.append_assoc]
      exact congrArg (Except.map _) (readItems_quotations first others rest hless)

/-- A written number is read as what it says. -/
theorem readValue_toDigits (value : Nat) {rest : List Char} (h : EndsValue rest) (steps : Nat)
    : readValue (steps + 1) (Nat.toDigits 10 value ++ rest) = .ok (.integer value, rest) := by
  cases hdigits : Nat.toDigits 10 value with
  | nil => exact absurd hdigits Nat.toDigits_ne_nil
  | cons c digits =>
      have hc : c.isDigit = true :=
        isDigit_of_mem_toDigits value (hdigits ▸ List.mem_cons_self)
      have hother {d : Char} (hd : d.isDigit = false) : c ≠ d := by
        rintro rfl
        rw [hc] at hd
        cases hd
      rw [List.cons_append, readValue,
        if_neg (not_or.2 ⟨hother (by decide), hother (by decide)⟩),
        if_neg (hother (by decide)), if_neg (hother (by decide)), ← List.cons_append, ← hdigits]
      exact readScalar_toDigits value h

/-- A written value is read as what it says. -/
theorem readValue_content (content : Content) {rest : List Char} (h : EndsValue rest)
    {steps : Nat} (hsteps : content.written.length < steps)
    : readValue steps (content.written ++ rest) = .ok (content.value, rest) := by
  obtain ⟨steps, rfl⟩ := Nat.exists_eq_add_one_of_ne_zero (Nat.ne_zero_of_lt hsteps)
  cases content with
  | text quotation => exact readValue_quotation quotation h steps
  | texts items => exact readValue_texts items rest (Nat.le_of_lt_succ hsteps)
  | count value => exact readValue_toDigits value h steps

end StoryAtlas.Toml
