import StoryAtlas.Proofs.Markup.Manuscript

/-! References and values read back.
A reference is read as the character it was written for, in text and in values.  A value as it is
written has no blank that reading would replace, and expanding it gives the value that is meant.
-/

namespace StoryAtlas.Markup

open StoryAtlas.Text

namespace Manuscript

-----------------------------------------------------------------------------------------
-- Numbers
-----------------------------------------------------------------------------------------

section Numbers

variable {radix : Radix}

theorem digitValue?_char (digit : Digit radix)
    : digitValue? radix.base digit.char = some digit.value.val := by
  obtain ⟨value, capital⟩ := digit
  cases radix <;> revert value capital <;> decide

theorem isAlphanum_digit (digit : Digit radix) : digit.char.isAlphanum = true := by
  obtain ⟨value, capital⟩ := digit
  cases radix <;> revert value capital <;> decide

theorem le_numberFrom (value : Nat) (digits : List (Digit radix))
    : value ≤ numberFrom value digits := by
  induction digits generalizing value with
  | nil => exact Nat.le_refl value
  | cons digit rest ih =>
      have hbase : 0 < radix.base := by cases radix <;> decide
      calc value
        _ ≤ value * radix.base := Nat.le_mul_of_pos_right value hbase
        _ ≤ value * radix.base + digit.value.val := Nat.le_add_right _ _
        _ ≤ numberFrom value (digit :: rest) := ih _

/-- Digits are read as the number they stand for, by induction on the digits behind those read.
No number on the way is larger than the last one.
-/
theorem readDigits_char (value : Nat) (digits : List (Digit radix))
    (h : numberFrom value digits < 0x100000000)
    : readDigits radix.base value (digits.map Digit.char) = .ok (numberFrom value digits) := by
  induction digits generalizing value with
  | nil => rfl
  | cons digit rest ih =>
      have hnext : value * radix.base + digit.value.val < 0x100000000 :=
        Nat.lt_of_le_of_lt (le_numberFrom _ rest) h
      rw [List.map_cons, readDigits, digitValue?_char]
      simp only [if_pos hnext]
      exact ih _ h

theorem numberOf_digits (digits : List (Digit radix))
    : numberOf (radix.mark ++ digits.map Digit.char) = (radix.base, digits.map Digit.char) := by
  cases radix with
  | hexadecimal => rfl
  | decimal =>
      cases digits with
      | nil => rfl
      | cons digit rest =>
          have hmark : digit.char ≠ 'x' := by
            obtain ⟨value, capital⟩ := digit
            revert value capital
            decide
          simp only [Radix.mark, List.nil_append, List.map_cons]
          unfold numberOf
          split
          · next heq => exact absurd (List.cons.inj heq).1 hmark
          · rfl

theorem charOfNumber?_toNat (c : Char) : charOfNumber? c.toNat = some c := by
  have hvalid : c.toNat.isValidChar := c.valid
  rw [charOfNumber?, dif_pos hvalid]
  exact congrArg some (Char.ext rfl)

theorem toNat_lt (c : Char) : c.toNat < 0x100000000 :=
  c.val.toNat_lt

end Numbers

-----------------------------------------------------------------------------------------
-- References
-----------------------------------------------------------------------------------------

theorem Reference.isName (reference : Reference) : IsName reference.name := by
  cases reference with
  | named entity =>
      have hall : entity.name.all Char.isAlpha = true := by cases entity <;> rfl
      have hne : entity.name ≠ [] := by cases entity <;> decide
      exact isName_of_test (by decide) hne (List.all_eq_true.1 hall)
  | numbered char radix digits _ _ =>
      have hmark : radix.mark.all (fun c => c.isAlphanum || c == '#') = true := by
        cases radix <;> rfl
      have hall : ∀ c ∈ '#' :: (radix.mark ++ digits.map Digit.char),
          (c.isAlphanum || c == '#') = true := by
        intro c hc
        rcases List.mem_cons.1 hc with rfl | hmem
        · rfl
        · rcases List.mem_append.1 hmem with hc | hdigit
          · exact List.all_eq_true.1 hmark c hc
          · obtain ⟨digit, -, rfl⟩ := List.mem_map.1 hdigit
            simp [isAlphanum_digit digit]
      exact isName_of_test (by decide) (List.cons_ne_nil _ _) hall

/-- A number is no name of an entity. -/
theorem predefinedEntity?_number (number : List Char)
    : predefinedEntity? (String.ofList ('#' :: number)) = none := by
  have hne (c : Char) (rest : List Char) (hc : c ≠ '#')
      : String.ofList ('#' :: number) ≠ String.ofList (c :: rest) := fun heq =>
    hc (List.cons.inj (String.ofList_inj.1 heq)).1.symm
  have hlt := hne 'l' ['t'] (by decide)
  have hgt := hne 'g' ['t'] (by decide)
  have hamp := hne 'a' ['m', 'p'] (by decide)
  have hapos := hne 'a' ['p', 'o', 's'] (by decide)
  have hquot := hne 'q' ['u', 'o', 't'] (by decide)
  rw [predefinedEntity?, if_neg hlt, if_neg hgt, if_neg hamp, if_neg hapos, if_neg hquot]

/-- The digits of a character that has a reference are there, and none of them is a sign. -/
theorem exists_digit {char : Char} {radix : Radix} {digits : List (Digit radix)}
    (means : numberFrom 0 digits = char.toNat) (nonzero : char.toNat ≠ 0)
    : ∃ c rest, digits.map Digit.char = c :: rest ∧ c ≠ '+' ∧ c ≠ '-' := by
  cases digits with
  | nil => exact absurd means.symm nonzero
  | cons digit rest =>
      have hdigit := isAlphanum_digit digit
      refine ⟨digit.char, rest.map Digit.char, rfl, ?_, ?_⟩
      · intro heq
        rw [heq] at hdigit
        exact absurd hdigit (by decide)
      · intro heq
        rw [heq] at hdigit
        exact absurd hdigit (by decide)

/-- A number in text means the character it was written for. -/
theorem resolveReference?_number {char : Char} {radix : Radix} {digits : List (Digit radix)}
    (means : numberFrom 0 digits = char.toNat) (nonzero : char.toNat ≠ 0)
    : resolveReference? [] ('#' :: (radix.mark ++ digits.map Digit.char)) = some [char] := by
  obtain ⟨c, rest, hdigits, hplus, -⟩ := exists_digit means nonzero
  have hread := readDigits_char 0 digits (means ▸ toNat_lt char)
  have hnumber : readTextNumber? radix.base (digits.map Digit.char) = some char.toNat := by
    have hunsigned : readTextNumber? radix.base (c :: rest)
        = (readDigits radix.base 0 (c :: rest)).toOption := by
      unfold readTextNumber?
      split
      · next heq => exact absurd (List.cons.inj heq).1 hplus
      · rfl
    rw [hdigits, hunsigned, ← hdigits, hread, means]
    rfl
  simp only [resolveReference?, lookupEntity?, predefinedEntity?_number, List.lookup_nil,
    numberOf_digits, hnumber, Option.bind_some, charOfNumber?_toNat, Option.map_some]

/-- A reference in text means the character it was written for. -/
theorem resolveReference?_name (reference : Reference)
    : resolveReference? [] reference.name = some [reference.char] := by
  cases reference with
  | named entity => cases entity <;> rfl
  | numbered char radix digits means nonzero => exact resolveReference?_number means nonzero

/-- A number in a value means the character it was written for. -/
theorem readCharacter_number {char : Char} {radix : Radix} {digits : List (Digit radix)}
    (means : numberFrom 0 digits = char.toNat) (nonzero : char.toNat ≠ 0)
    : readCharacter (radix.mark ++ digits.map Digit.char) = .ok char := by
  obtain ⟨c, rest, hdigits, hplus, hminus⟩ := exists_digit means nonzero
  have hread := readDigits_char 0 digits (means ▸ toNat_lt char)
  have hnumber : readNumber radix.base (digits.map Digit.char) = .ok char.toNat := by
    rw [hdigits] at hread ⊢
    rw [readNumber, if_neg (not_or.2 ⟨hplus, hminus⟩), hread, means]
  simp only [readCharacter, numberOf_digits, hnumber, if_neg nonzero, charOfNumber?_toNat]

-----------------------------------------------------------------------------------------
-- Values
-----------------------------------------------------------------------------------------

theorem isNameChar_of_not_mem {c : Char} (h : c ∉ markupChars) : isNameChar c = true := by
  simp only [markupChars, List.mem_cons, not_or] at h
  simp [isNameChar, h]

/-- Expanding takes a reference off a value. -/
theorem expandFrom_reference (reference : Reference) (total position : Nat) (rest : List Char)
    : expandFrom (lookupEntity? []) total position (reference.written ++ rest)
      = (expandFrom (lookupEntity? []) total (position + byteLength reference.name + 2) rest).map
          (reference.char :: ·) := by
  have hname : ∀ c ∈ reference.name, isNameChar c = true := fun c hc =>
    isNameChar_of_not_mem (reference.isName.2 c hc)
  have htake := takeWhile_append_cons (c := ';') hname rfl rest
  have hdrop := dropWhile_append_cons (c := ';') hname rfl rest
  have hwritten : reference.written ++ rest = '&' :: (reference.name ++ ';' :: rest) := by
    simp [Reference.written]
  rw [hwritten, expandFrom, if_pos rfl]
  simp only [htake]
  split
  · next after hafter =>
      obtain rfl : rest = after := by simpa [hdrop] using hafter
      cases reference with
      | named entity => cases entity <;> rfl
      | numbered char radix digits means nonzero =>
          simp only [Reference.name, readCharacter_number means nonzero]
          rfl
  · next hother => exact absurd hdrop (hother rest)

/-- Expanding a value gives the characters that are meant, by induction on the characters. -/
theorem expandFrom_written {plain : Char → Bool} (hplain : ∀ c, plain c = true → c ≠ '&')
    (value : List (Character plain)) (total position : Nat)
    : expandFrom (lookupEntity? []) total position (value.flatMap Character.written)
      = .ok (value.map Character.char) := by
  induction value generalizing position with
  | nil =>
      rw [List.flatMap_nil, expandFrom]
      rfl
  | cons one rest ih =>
      rw [List.flatMap_cons]
      cases one with
      | literal c allowed =>
          rw [Character.written, List.singleton_append, expandFrom, if_neg (hplain c allowed), ih]
          rfl
      | reference meant =>
          rw [Character.written, expandFrom_reference, ih]
          rfl

/-- A character is written with itself, or with the characters of a reference. -/
theorem Character.of_mem_written {plain : Char → Bool} {one : Character plain} {c : Char}
    (h : c ∈ one.written)
    : plain c = true ∨ c = '&' ∨ c = ';' ∨ c ∉ markupChars := by
  cases one with
  | literal char allowed =>
      obtain rfl := List.mem_singleton.1 h
      exact Or.inl allowed
  | reference meant =>
      rcases List.mem_cons.1 h with rfl | h
      · exact Or.inr (Or.inl rfl)
      · rcases List.mem_append.1 h with hname | hend
        · exact Or.inr (Or.inr (Or.inr (meant.isName.2 c hname)))
        · exact Or.inr (Or.inr (Or.inl (List.mem_singleton.1 hend)))

/-- What stands between the quotes has no blank that reading would replace, and no such quote. -/
theorem Attribute.plain_of_mem_rawValue {given : Attribute} {c : Char} (h : c ∈ given.rawValue)
    : c ≠ given.quote.char ∧ c ≠ '\t' ∧ c ≠ '\r' ∧ c ≠ '\n' := by
  obtain ⟨one, -, hc⟩ := List.mem_flatMap.1 h
  have hquote : given.quote.char ∈ markupChars := by cases given.quote <;> decide
  rcases Character.of_mem_written hc with hplain | rfl | rfl | hname
  · simp only [isPlainInValue, List.contains_eq_mem, List.mem_cons, List.not_mem_nil, or_false,
      Bool.not_eq_true', decide_eq_false_iff_not, not_or] at hplain
    exact hplain.2.2
  · cases given.quote <;> decide
  · cases given.quote <;> decide
  · refine ⟨?_, ?_, ?_, ?_⟩
    · rintro rfl
      exact hname hquote
    · rintro rfl
      exact hname (by decide)
    · rintro rfl
      exact hname (by decide)
    · rintro rfl
      exact hname (by decide)

theorem Attribute.quote_not_mem_rawValue (given : Attribute)
    : given.quote.char ∉ given.rawValue := fun hmem =>
  (Attribute.plain_of_mem_rawValue hmem).1 rfl

theorem normalizeValue_of_plain {chars : List Char}
    (h : ∀ c ∈ chars, c ≠ '\t' ∧ c ≠ '\r' ∧ c ≠ '\n')
    : normalizeValue chars = chars := by
  fun_induction normalizeValue chars with
  | case1 => rfl
  | case2 rest _ => exact absurd rfl (h '\r' List.mem_cons_self).2.1
  | case3 c rest _ ih =>
      have hc := h c List.mem_cons_self
      rw [ih fun d hd => h d (List.mem_cons_of_mem c hd), if_neg (by simp [hc])]

/-- A value is read as it is meant. -/
theorem attributeValue_rawValue (given : Attribute) (span : Span)
    : Reader.attributeValue [] span ⟨given.name.chars, given.rawValue⟩
      = (given.entry.2, none) := by
  have hnormal : normalizeValue given.rawValue = given.rawValue :=
    normalizeValue_of_plain fun c hc => (Attribute.plain_of_mem_rawValue hc).2
  have hplain (c : Char) (h : isPlainInValue given.quote c = true) : c ≠ '&' := by
    rintro rfl
    simp [isPlainInValue] at h
  have hexpand : expand (lookupEntity? []) given.rawValue
      = .ok (given.value.map Character.char) :=
    expandFrom_written hplain given.value _ 0
  simp only [Reader.attributeValue, hnormal, hexpand]
  rfl

end Manuscript

end StoryAtlas.Markup
