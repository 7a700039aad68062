import StoryAtlas.Markup.Entity
import StoryAtlas.Proofs.Markup.References

/-! What a reference means in text and in a value.
A name means the same in both, whatever is declared.  A number need not: only text takes a plus
sign and the number zero, and only text asks for a declaration first.  These three are the only
differences, so the two meanings agree exactly outside them.
-/

namespace StoryAtlas.Markup

open StoryAtlas.Text

-----------------------------------------------------------------------------------------
-- Numbers
-----------------------------------------------------------------------------------------

/-- The character whose number is written with the given digits. -/
def numberedChar? (base : Nat) (digits : List Char) : Option Char :=
  if digits = [] then none else (readDigits base 0 digits).toOption.bind charOfNumber?

/-- The character whose number is written with the given digits, in front of which a plus sign
may stand.
-/
def signedChar? (base : Nat) : List Char → Option Char
  | '+' :: digits => numberedChar? base digits
  | digits => numberedChar? base digits

theorem base_numberOf_le (number : List Char) : (numberOf number).1 ≤ 16 := by
  unfold numberOf
  split
  · exact Nat.le_refl 16
  · exact Nat.le_of_ble_eq_true rfl

/-- A sign is no digit, so a number with a sign in front is none. -/
theorem numberedChar?_sign {base : Nat} (hbase : base ≤ 16) {c : Char} (h : c = '+' ∨ c = '-')
    (rest : List Char)
    : numberedChar? base (c :: rest) = none := by
  have hdigit : digitValue? base c = none := by
    rcases h with rfl | rfl <;> simpa [digitValue?] using hbase
  simp [numberedChar?, readDigits, hdigit, Except.toOption]

/-- Refusing a sign in front changes nothing, since a sign is no digit. -/
theorem toOption_readNumber {base : Nat} (hbase : base ≤ 16) (digits : List Char)
    : (readNumber base digits).toOption.bind charOfNumber? = numberedChar? base digits := by
  cases digits with
  | nil => rfl
  | cons c rest =>
      by_cases hsign : c = '+' ∨ c = '-'
      · rw [readNumber, if_pos hsign, numberedChar?_sign hbase hsign]
        rfl
      · rw [readNumber, if_neg hsign, numberedChar?, if_neg (List.cons_ne_nil c rest)]

/-- Only zero is the number of the null character. -/
theorem charOfNumber?_eq_null_iff {code : Nat}
    : charOfNumber? code = some '\x00' ↔ code = 0 := by
  constructor
  · intro h
    unfold charOfNumber? at h
    by_cases hvalid : code.isValidChar
    · rw [dif_pos hvalid] at h
      exact congrArg Char.toNat (Option.some.inj h)
    · rw [dif_neg hvalid] at h
      cases h
  · rintro rfl
    rfl

/-- A number in a value has no sign and is not zero. -/
theorem toOption_readCharacter (number : List Char)
    : (readCharacter number).toOption
      = (numberedChar? (numberOf number).1 (numberOf number).2).filter (· ≠ '\x00') := by
  rw [← toOption_readNumber (base_numberOf_le number), readCharacter]
  rcases numberOf number with ⟨base, digits⟩
  cases hread : readNumber base digits with
  | error fault => simp [Except.toOption, hread]
  | ok code =>
      simp only [hread, Except.toOption, Option.bind_some]
      by_cases hzero : code = 0
      · subst hzero
        rfl
      · rw [if_neg hzero]
        cases hchar : charOfNumber? code with
        | none => rfl
        | some c =>
            have hnull : c ≠ '\x00' := by
              rintro rfl
              exact hzero (charOfNumber?_eq_null_iff.1 hchar)
            simp [Option.filter, hnull]

/-- A number in text may have a plus sign in front.  Reading drops it only in front of a digit,
which makes no difference, since a sign alone is no number.
-/
theorem bind_readTextNumber? {base : Nat} (hbase : base ≤ 16) (digits : List Char)
    : (readTextNumber? base digits).bind charOfNumber? = signedChar? base digits := by
  unfold signedChar?
  split
  · next unsigned =>
      cases unsigned with
      | nil => exact numberedChar?_sign hbase (Or.inl rfl) []
      | cons c rest => rw [numberedChar?, if_neg (List.cons_ne_nil c rest)]; rfl
  · next unsigned hplus =>
      cases digits with
      | nil => rfl
      | cons c rest =>
          have hunsigned : readTextNumber? base (c :: rest)
              = (readDigits base 0 (c :: rest)).toOption := by
            unfold readTextNumber?
            split
            · next heq => exact absurd heq (hplus _)
            · rfl
          rw [hunsigned, numberedChar?, if_neg (List.cons_ne_nil c rest)]

/-- A number without a sign means the same when a sign is allowed. -/
theorem signedChar?_of_numberedChar? {base : Nat} (hbase : base ≤ 16) {digits : List Char}
    {c : Char} (h : numberedChar? base digits = some c)
    : signedChar? base digits = some c := by
  unfold signedChar?
  split
  · rw [numberedChar?_sign hbase (Or.inl rfl)] at h
    exact absurd h (Option.some_ne_none c).symm
  · exact h

-----------------------------------------------------------------------------------------
-- References
-----------------------------------------------------------------------------------------

/-- What a reference is in a value: a number if there is a number sign in front, and a name
otherwise.
-/
def valueMeaning? (lookup : String → Option String) : List Char → Option (List Char)
  | '#' :: number => (readCharacter number).toOption.map ([·])
  | name => (lookup (String.ofList name)).map String.toList

section Expansion

variable {lookup : String → Option String} {chars rest : List Char}

theorem expandFrom_of_ne {c : Char} (hc : c ≠ '&') (total position : Nat) (chars : List Char)
    : expandFrom lookup total position (c :: chars)
      = (expandFrom lookup total (position + c.utf8Size) chars).map (c :: ·) := by
  rw [expandFrom, if_neg hc]

theorem expandFrom_unterminated (h : (chars.dropWhile isNameChar).head? ≠ some ';')
    (total position : Nat)
    : expandFrom lookup total position ('&' :: chars) = .error (.unterminated position total) := by
  rw [expandFrom, if_pos rfl]
  dsimp only
  split
  · next rest hrest => exact absurd (congrArg List.head? hrest) h
  · rfl

/-- A reference of a value goes on with its meaning and is a fault without one. -/
theorem exists_expandFrom_reference (lookup : String → Option String)
    (hafter : chars.dropWhile isNameChar = ';' :: rest) (total position : Nat)
    : (∃ text next,
        valueMeaning? lookup (chars.takeWhile isNameChar) = some text
        ∧ expandFrom lookup total position ('&' :: chars)
          = (expandFrom lookup total next rest).map (text ++ ·))
      ∨ valueMeaning? lookup (chars.takeWhile isNameChar) = none
        ∧ ∃ fault, expandFrom lookup total position ('&' :: chars) = .error fault := by
  rw [expandFrom, if_pos rfl]
  dsimp only
  split
  · next after heq =>
      obtain rfl : after = rest := by simpa [hafter] using heq.symm
      generalize chars.takeWhile isNameChar = name
      by_cases hnumber : ∃ number, name = '#' :: number
      · obtain ⟨number, rfl⟩ := hnumber
        simp only [valueMeaning?]
        cases readCharacter number with
        | error cause => exact .inr ⟨rfl, _, rfl⟩
        | ok c => exact .inl ⟨_, _, rfl, rfl⟩
      · have hno : ∀ number, name = '#' :: number → False := fun number heq => hnumber ⟨number, heq⟩
        simp only [valueMeaning?]
        cases lookup (String.ofList name) with
        | none => exact .inr ⟨rfl, _, rfl⟩
        | some text => exact .inl ⟨_, _, rfl, rfl⟩
  · next hother => exact absurd hafter (hother rest)

end Expansion

/-- Expanding a value that is one reference gives the meaning of the reference. -/
theorem toOption_expand_reference {name : List Char} (lookup : String → Option String)
    (h : ∀ c ∈ name, c ≠ '&' ∧ c ≠ ';')
    : (expand lookup (Token.reference name).written).toOption = valueMeaning? lookup name := by
  have hname : ∀ c ∈ name, isNameChar c = true := fun c hc => by simp [isNameChar, h c hc]
  have htake := takeWhile_append_cons (c := ';') hname rfl []
  have hdrop := dropWhile_append_cons (c := ';') hname rfl []
  rw [expand, Token.written]
  generalize byteLength ('&' :: (name ++ [';'])) = total
  rcases exists_expandFrom_reference lookup hdrop total 0 with
    ⟨text, next, hmeaning, hexpand⟩ | ⟨hmeaning, fault, hexpand⟩
  · rw [htake] at hmeaning
    rw [hexpand, hmeaning, expandFrom]
    exact congrArg some (List.append_nil text)
  · rw [htake] at hmeaning
    rw [hexpand, hmeaning]
    rfl

/-- In text a declaration of a number comes first. -/
theorem resolveReference?_ofNumber (entities : Entities) (number : List Char)
    : resolveReference? entities ('#' :: number)
      = match entities.lookup (String.ofList ('#' :: number)) with
        | some text => some text.toList
        | none => (signedChar? (numberOf number).1 (numberOf number).2).map ([·]) := by
  have hlookup : lookupEntity? entities (String.ofList ('#' :: number))
      = entities.lookup (String.ofList ('#' :: number)) := by
    rw [lookupEntity?, Manuscript.predefinedEntity?_number]
  rw [resolveReference?, hlookup]
  cases entities.lookup (String.ofList ('#' :: number)) with
  | some text => rfl
  | none =>
      simp only [← bind_readTextNumber? (base_numberOf_le number), Option.map_bind]
      rfl

/-- The references that are read differently in text and in values, given the declared entities.
-/
inductive ReadDifferently (entities : Entities) : List Char → Prop
  /-- A declaration of a number counts in text only. -/
  | declared {number : List Char} {text : String}
      (declares : entities.lookup (String.ofList ('#' :: number)) = some text)
      (other : (readCharacter number).toOption.map ([·]) ≠ some text.toList)
      : ReadDifferently entities ('#' :: number)
  /-- A plus sign is taken in text only. -/
  | signed {number digits : List Char} {c : Char}
      (undeclared : entities.lookup (String.ofList ('#' :: number)) = none)
      (sign : (numberOf number).2 = '+' :: digits)
      (means : numberedChar? (numberOf number).1 digits = some c)
      : ReadDifferently entities ('#' :: number)
  /-- The number zero is taken in text only. -/
  | zero {number : List Char}
      (undeclared : entities.lookup (String.ofList ('#' :: number)) = none)
      (means : numberedChar? (numberOf number).1 (numberOf number).2 = some '\x00')
      : ReadDifferently entities ('#' :: number)

variable {entities : Entities} {number : List Char}

/-- A declared number is read differently exactly if its value meaning is not the declared text. -/
theorem readDifferently_iff_of_declared {text : String}
    (declares : entities.lookup (String.ofList ('#' :: number)) = some text)
    : ReadDifferently entities ('#' :: number)
        ↔ (readCharacter number).toOption.map ([·]) ≠ some text.toList := by
  constructor
  · intro hdiffer
    cases hdiffer with
    | declared found other =>
        obtain rfl := Option.some.inj (declares.symm.trans found)
        exact other
    | signed undeclared => exact absurd (declares.symm.trans undeclared) (Option.some_ne_none _)
    | zero undeclared => exact absurd (declares.symm.trans undeclared) (Option.some_ne_none _)
  · exact .declared declares

/-- A number that is not declared is read differently exactly if a sign in front or the number
zero makes a character of it in text.  Witness: digits alone are the same number on both sides.
-/
theorem readDifferently_iff_of_undeclared
    (undeclared : entities.lookup (String.ofList ('#' :: number)) = none)
    : ReadDifferently entities ('#' :: number)
        ↔ (readCharacter number).toOption
            ≠ signedChar? (numberOf number).1 (numberOf number).2 := by
  have hbase := base_numberOf_le number
  rw [toOption_readCharacter]
  constructor
  · intro hdiffer hsame
    cases hdiffer with
    | declared declares => exact absurd (undeclared.symm.trans declares) (by simp)
    | signed _ sign means =>
        rw [sign, numberedChar?_sign hbase (Or.inl rfl), signedChar?, means] at hsame
        exact absurd hsame (by simp)
    | zero _ means =>
        rw [signedChar?_of_numberedChar? hbase means, means] at hsame
        exact absurd hsame (by decide)
  · intro hother
    by_contra hsame
    refine hother ?_
    cases hmeans : numberedChar? (numberOf number).1 (numberOf number).2 with
    | some c =>
        have hnull : c ≠ '\x00' := by
          rintro rfl
          exact hsame (.zero undeclared hmeans)
        rw [signedChar?_of_numberedChar? hbase hmeans]
        simp [Option.filter, hnull]
    | none =>
        rw [Option.filter_none]
        unfold signedChar?
        split
        · next digits hdigits =>
            cases hunsigned : numberedChar? (numberOf number).1 digits with
            | none => rfl
            | some c => exact absurd (.signed undeclared hdigits hunsigned) hsame
        · exact hmeans.symm

/-- A reference in text stands for what the same reference stands for in a value, and for nothing
where that has no meaning, exactly if it is none of those that are read differently.
-/
theorem resolveReference?_eq_expand_iff {name : List Char} (entities : Entities)
    (h : ∀ c ∈ name, c ≠ '&' ∧ c ≠ ';')
    : resolveReference? entities name
          = (expand (lookupEntity? entities) (Token.reference name).written).toOption
        ↔ ¬ ReadDifferently entities name := by
  rw [toOption_expand_reference _ h]
  by_cases hnumber : ∃ number, name = '#' :: number
  · obtain ⟨number, rfl⟩ := hnumber
    rw [resolveReference?_ofNumber, valueMeaning?]
    cases hlookup : entities.lookup (String.ofList ('#' :: number)) with
    | some text => rw [readDifferently_iff_of_declared hlookup, not_not, eq_comm]
    | none =>
        have hsingleton := Option.map_injective (List.singleton_injective (α := Char))
        rw [readDifferently_iff_of_undeclared hlookup, not_not, eq_comm]
        exact hsingleton.eq_iff
  · have hname : ∀ number, name = '#' :: number → False := fun number heq =>
      hnumber ⟨number, heq⟩
    have hsame : ¬ ReadDifferently entities name := fun hdiffer => by
      cases hdiffer <;> exact hname _ rfl
    simp only [resolveReference?, valueMeaning?]
    cases lookupEntity? entities (String.ofList name) with
    | none => exact iff_of_true rfl hsame
    | some text => exact iff_of_true rfl hsame

/-- A plus sign in front of a number is taken in text only. -/
theorem resolveReference?_ne_expand_of_plus
    : (∀ c ∈ ['#', '+', '6', '5'], c ≠ '&' ∧ c ≠ ';')
        ∧ resolveReference? [] ['#', '+', '6', '5']
            ≠ (expand (lookupEntity? []) (Token.reference ['#', '+', '6', '5']).written).toOption :=
  ⟨by simp, fun h =>
    (resolveReference?_eq_expand_iff [] (by simp)).1 h (.signed (c := 'A') rfl rfl (by decide))⟩

/-- The characters a reference name may be made of in any place of a document. -/
def isPlainNameChar (c : Char) : Bool :=
  !(['&', ';', '<', '"', '\''].contains c) && !isBlank c

/-- Not every reference means the same in text and in a value: a number with a plus sign is a
character in text and a fault in a value, without any declaration.
-/
theorem not_forall_resolveReference?_iff_expand
    : ¬ ∀ doctype name : List Char, name ≠ [] → (∀ c ∈ name, isPlainNameChar c = true) →
        ∀ text : List Char,
          resolveReference? (declaredEntities doctype) name = some text
            ↔ expand (lookupEntity? (declaredEntities doctype)) (Token.reference name).written
                = .ok text := by
  intro h
  have hplain : ∀ c ∈ ['#', '+', '6', '5'], isPlainNameChar c = true :=
    List.all_eq_true.1 (by decide)
  have hexpand := (h [] ['#', '+', '6', '5'] (by decide) hplain ['A']).1 (by decide)
  have hplus : ∀ c ∈ ['#', '+', '6', '5'], c ≠ '&' ∧ c ≠ ';' := by simp
  have hmeaning := toOption_expand_reference (lookupEntity? (declaredEntities [])) hplus
  rw [hexpand] at hmeaning
  exact absurd hmeaning (by decide)

end StoryAtlas.Markup
