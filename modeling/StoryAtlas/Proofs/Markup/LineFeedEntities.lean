import Mathlib.Data.List.Forall2
import StoryAtlas.Proofs.Markup.EntitySearch
import StoryAtlas.Proofs.Markup.LineFeeds
import StoryAtlas.Proofs.Markup.ReferenceMeaning
import StoryAtlas.Proofs.Outcome

/-! Entities declared in a text whose line breaks are turned into line feeds.
The names of entities have no line breaks and stay as they are.  A line break written in a
literal is turned in the replacement text as well, while a return that comes from a reference in
the literal stays there, so that the texts differ by some of their line breaks.
-/

namespace StoryAtlas.Markup

open StoryAtlas.Text

-----------------------------------------------------------------------------------------
-- Texts that differ by line breaks
-----------------------------------------------------------------------------------------

/-- Two texts of which the second has a line feed for some pairs of a return and a line feed and
for some single returns of the first.
-/
inductive BreaksTurned : List Char → List Char → Prop
  | nil : BreaksTurned [] []
  | kept (c : Char) {chars other : List Char} (h : BreaksTurned chars other)
    : BreaksTurned (c :: chars) (c :: other)
  | pair {chars other : List Char} (h : BreaksTurned chars other)
    : BreaksTurned ('\r' :: '\n' :: chars) ('\n' :: other)
  | single {chars other : List Char} (h : BreaksTurned chars other)
    : BreaksTurned ('\r' :: chars) ('\n' :: other)

namespace BreaksTurned

variable {chars other back otherBack : List Char}

theorem refl (chars : List Char) : BreaksTurned chars chars := by
  induction chars with
  | nil => exact .nil
  | cons c rest ih => exact .kept c ih

theorem append (h : BreaksTurned chars other) (hback : BreaksTurned back otherBack)
    : BreaksTurned (chars ++ back) (other ++ otherBack) := by
  induction h with
  | nil => exact hback
  | kept c _ ih => exact .kept c ih
  | pair _ ih => exact .pair ih
  | single _ ih => exact .single ih

theorem isAllBlank_eq (h : BreaksTurned chars other) : isAllBlank other = isAllBlank chars := by
  have hreturn : isBlank '\r' = true := by decide
  have hfeed : isBlank '\n' = true := by decide
  unfold isAllBlank
  induction h with
  | nil => rfl
  | kept c _ ih => rw [List.all_cons, List.all_cons, ih]
  | pair _ ih => simp [ih, hreturn, hfeed]
  | single _ ih => simp [ih, hreturn, hfeed]

/-- All line breaks of a text may be turned. -/
theorem of_lineFeeds (chars : List Char) : BreaksTurned chars (lineFeeds false chars) := by
  rw [← normalizeLineBreaks_eq]
  fun_induction normalizeLineBreaks chars with
  | case1 => exact .nil
  | case2 rest ih => exact .pair ih
  | case3 c rest _ ih =>
      split
      · next hc => exact hc ▸ .single ih
      · exact .kept c ih

end BreaksTurned

/-- A relation between texts that may hold between two readings of them, where texts are put
together and asked for blanks.
-/
structure Compatible (rel : List Char → List Char → Prop) : Prop where
  refl chars : rel chars chars
  append {chars other back otherBack}
    : rel chars other → rel back otherBack → rel (chars ++ back) (other ++ otherBack)
  blank {chars other} : rel chars other → isAllBlank other = isAllBlank chars

theorem compatible_eq : Compatible Eq where
  refl _ := rfl
  append h hback := h ▸ hback ▸ rfl
  blank h := h ▸ rfl

theorem compatible_breaksTurned : Compatible BreaksTurned where
  refl := .refl
  append := .append
  blank := BreaksTurned.isAllBlank_eq

-----------------------------------------------------------------------------------------
-- Names and numbers
-----------------------------------------------------------------------------------------

theorem Unbreaking.cons {c : Char} {piece : List Char} (h : Unbreaking piece)
    (hreturn : c ≠ '\r') (hfeed : c ≠ '\n')
    : Unbreaking (c :: piece) :=
  ⟨List.not_mem_cons_of_ne_of_not_mem hreturn.symm h.1,
    List.not_mem_cons_of_ne_of_not_mem hfeed.symm h.2⟩

/-- Digits among which there is another character are no number. -/
theorem toOption_readDigits_of_mem {base : Nat} {c : Char} (hc : digitValue? base c = none)
    {digits : List Char} (h : c ∈ digits) (value : Nat)
    : (readDigits base value digits).toOption = none := by
  induction digits generalizing value with
  | nil => cases h
  | cons d rest ih =>
      rw [readDigits]
      cases hd : digitValue? base d with
      | none => rfl
      | some digit =>
          have hmem : c ∈ rest := by
            refine (List.mem_cons.mp h).resolve_left ?_
            rintro rfl
            exact absurd (hc.symm.trans hd) (by simp)
          dsimp only
          split
          · exact ih hmem _
          · rfl

theorem numberedChar?_of_breaking {base : Nat} (hbase : base ≤ 16) {digits : List Char}
    (h : ¬ Unbreaking digits)
    : numberedChar? base digits = none := by
  have hreturn : digitValue? base '\r' = none := by simpa [digitValue?] using hbase
  have hfeed : digitValue? base '\n' = none := by simpa [digitValue?] using hbase
  have hnone : (readDigits base 0 digits).toOption = none := by
    rcases not_and_or.mp h with hmem | hmem
    · exact toOption_readDigits_of_mem hreturn (not_not.mp hmem) 0
    · exact toOption_readDigits_of_mem hfeed (not_not.mp hmem) 0
  rw [numberedChar?, hnone]
  exact ite_self none

theorem signedChar?_of_breaking {base : Nat} (hbase : base ≤ 16) {digits : List Char}
    (h : ¬ Unbreaking digits)
    : signedChar? base digits = none := by
  unfold signedChar?
  split
  · exact numberedChar?_of_breaking hbase fun hrest => h (hrest.cons (by decide) (by decide))
  · exact numberedChar?_of_breaking hbase h

theorem not_unbreaking_numberOf {number : List Char} (h : ¬ Unbreaking number)
    : ¬ Unbreaking (numberOf number).2 := by
  unfold numberOf
  split
  · exact fun hrest => h (hrest.cons (by decide) (by decide))
  · exact h

section Meaning

variable {lookup : String → Option String} {name : List Char}

/-- A reference with a line break means nothing in a value. -/
theorem valueMeaning?_of_breaking
    (hlookup : ∀ name, ¬ Unbreaking name → lookup (String.ofList name) = none)
    (h : ¬ Unbreaking name)
    : valueMeaning? lookup name = none := by
  unfold valueMeaning?
  split
  · next number =>
      have hnumber : ¬ Unbreaking number := fun hrest => h (hrest.cons (by decide) (by decide))
      rw [toOption_readCharacter,
        numberedChar?_of_breaking (base_numberOf_le number) (not_unbreaking_numberOf hnumber)]
      rfl
  · rw [hlookup name h]
    rfl

/-- Turning line breaks changes no meaning, as references with line breaks have none. -/
theorem valueMeaning?_lineFeeds
    (hlookup : ∀ name, ¬ Unbreaking name → lookup (String.ofList name) = none)
    (name : List Char)
    : valueMeaning? lookup (lineFeeds false name) = valueMeaning? lookup name := by
  by_cases hmem : '\r' ∈ name
  · rw [valueMeaning?_of_breaking hlookup fun h => h.1 hmem,
      valueMeaning?_of_breaking hlookup fun h => h.2 (feed_mem_lineFeeds hmem false)]
  · rw [lineFeeds_of_not_mem hmem]

theorem predefinedEntity?_of_breaking (h : ¬ Unbreaking name)
    : predefinedEntity? (String.ofList name) = none := by
  have hne {known : String} (hknown : Unbreaking known.toList) : String.ofList name ≠ known := by
    rintro rfl
    rw [String.toList_ofList] at hknown
    exact h hknown
  unfold predefinedEntity?
  rw [if_neg (hne (by simp [Unbreaking])), if_neg (hne (by simp [Unbreaking])),
    if_neg (hne (by simp [Unbreaking])), if_neg (hne (by simp [Unbreaking])),
    if_neg (hne (by simp [Unbreaking]))]

/-- A reference with a line break means nothing in text. -/
theorem resolveReference?_of_breaking {entities : Entities}
    (hlookup : lookupEntity? entities (String.ofList name) = none) (h : ¬ Unbreaking name)
    : resolveReference? entities name = none := by
  unfold resolveReference?
  rw [hlookup]
  dsimp only
  split
  · next number =>
      have hnumber : ¬ Unbreaking number := fun hrest => h (hrest.cons (by decide) (by decide))
      have hbase := base_numberOf_le number
      have hchar := bind_readTextNumber? hbase (numberOf number).2
      rw [signedChar?_of_breaking hbase (not_unbreaking_numberOf hnumber),
        Option.bind_eq_none_iff] at hchar
      rw [Option.bind_eq_none_iff]
      intro code hcode
      rw [hchar code hcode]
      rfl
  · rfl

end Meaning

-----------------------------------------------------------------------------------------
-- Expansion
-----------------------------------------------------------------------------------------

section Expansion

variable {lookup otherLookup : String → Option String} {chars rest : List Char}
  {rel : List Char → List Char → Prop}

/-- Two references with related meanings go on alike if what is behind them does. -/
theorem expandFrom_reference_alike (hrel : Compatible rel) {other otherRest : List Char}
    {total otherTotal : Nat} (hafter : chars.dropWhile isNameChar = ';' :: rest)
    (hother : other.dropWhile isNameChar = ';' :: otherRest)
    (hmeaning
      : Option.Rel rel (valueMeaning? lookup (chars.takeWhile isNameChar))
          (valueMeaning? otherLookup (other.takeWhile isNameChar)))
    (hrest
      : ∀ next otherNext,
          Alike rel (expandFrom lookup total next rest)
            (expandFrom otherLookup otherTotal otherNext otherRest))
    (position otherPosition : Nat)
    : Alike rel (expandFrom lookup total position ('&' :: chars))
        (expandFrom otherLookup otherTotal otherPosition ('&' :: other)) := by
  rcases exists_expandFrom_reference lookup hafter total position with
    ⟨text, next, htext, hexpand⟩ | ⟨hnone, fault, hexpand⟩
  · rcases exists_expandFrom_reference otherLookup hother otherTotal otherPosition with
      ⟨otherText, otherNext, hotherText, hotherExpand⟩ | ⟨hotherNone, -⟩
    · rw [htext, hotherText] at hmeaning
      cases hmeaning with
      | some htexts =>
          rw [hexpand, hotherExpand]
          exact (hrest next otherNext).map fun h => hrel.append htexts h
    · rw [htext, hotherNone] at hmeaning
      cases hmeaning
  · rcases exists_expandFrom_reference otherLookup hother otherTotal otherPosition with
      ⟨otherText, _, hotherText, -⟩ | ⟨-, otherFault, hotherExpand⟩
    · rw [hnone, hotherText] at hmeaning
      cases hmeaning
    · rw [hexpand, hotherExpand]
      exact .error _ _

/-- One value is expanded alike with related meanings of its references, by induction on its
length.
-/
theorem expandFrom_alike (hrel : Compatible rel)
    (hmeaning
      : ∀ name, Option.Rel rel (valueMeaning? lookup name) (valueMeaning? otherLookup name))
    (total position otherTotal otherPosition : Nat) (chars : List Char)
    : Alike rel (expandFrom lookup total position chars)
        (expandFrom otherLookup otherTotal otherPosition chars) := by
  induction hlength : chars.length using Nat.strong_induction_on
    generalizing position otherPosition chars with
  | _ length ih =>
      subst hlength
      cases chars with
      | nil =>
          rw [expandFrom, expandFrom]
          exact .ok (hrel.refl [])
      | cons c rest =>
          by_cases hc : c = '&'
          · subst hc
            by_cases hend : (rest.dropWhile isNameChar).head? = some ';'
            · obtain ⟨after, hafter⟩ := List.head?_eq_some_iff.mp hend
              have hshort := length_lt_of_dropWhile_eq_cons hafter
              exact expandFrom_reference_alike hrel hafter hafter (hmeaning _)
                (fun next otherNext =>
                  ih after.length (hshort.trans (Nat.lt_succ_self _)) next otherNext after rfl)
                position otherPosition
            · rw [expandFrom_unterminated hend, expandFrom_unterminated hend]
              exact .error _ _
          · rw [expandFrom_of_ne hc, expandFrom_of_ne hc]
            exact (ih rest.length (Nat.lt_succ_self _) _ _ rest rfl).map
              fun h => hrel.append (hrel.refl [c]) h

/-- A reference of a value goes on alike before and after if what is behind it does. -/
theorem expandFrom_lineFeeds_reference_alike
    (hlookup : ∀ name, ¬ Unbreaking name → lookup (String.ofList name) = none)
    {total otherTotal : Nat}
    (hgo
      : ∀ after, after.length < chars.length → ∀ position otherPosition,
          Alike BreaksTurned (expandFrom lookup total position after)
            (expandFrom lookup otherTotal otherPosition (lineFeeds false after)))
    (position otherPosition : Nat)
    : Alike BreaksTurned (expandFrom lookup total position ('&' :: chars))
        (expandFrom lookup otherTotal otherPosition ('&' :: lineFeeds false chars)) := by
  have hreturn : isNameChar '\r' = true := by decide
  have hfeed : isNameChar '\n' = true := by decide
  have hdrop := dropWhile_lineFeeds hreturn hfeed false chars
  by_cases hend : (chars.dropWhile isNameChar).head? = some ';'
  · obtain ⟨after, hafter⟩ := List.head?_eq_some_iff.mp hend
    rw [hafter, lineFeeds_cons (by decide)] at hdrop
    refine expandFrom_reference_alike compatible_breaksTurned hafter hdrop ?_
      (hgo after (length_lt_of_dropWhile_eq_cons hafter)) position otherPosition
    rw [takeWhile_lineFeeds hreturn hfeed, valueMeaning?_lineFeeds hlookup]
    cases valueMeaning? lookup (chars.takeWhile isNameChar) with
    | none => exact .none
    | some text => exact .some (.refl text)
  · have hturned : ((lineFeeds false chars).dropWhile isNameChar).head? ≠ some ';' := by
      rw [hdrop]
      exact fun h => hend ((head?_lineFeeds_eq_some_iff (by decide) (by decide) _).mp h)
    rw [expandFrom_unterminated hend, expandFrom_unterminated hturned]
    exact .error _ _

/-- A value is expanded alike before and after its line breaks are turned, by induction on its
length.
-/
theorem expandFrom_lineFeeds_alike
    (hlookup : ∀ name, ¬ Unbreaking name → lookup (String.ofList name) = none)
    (total position otherTotal otherPosition : Nat) (chars : List Char)
    : Alike BreaksTurned (expandFrom lookup total position chars)
        (expandFrom lookup otherTotal otherPosition (lineFeeds false chars)) := by
  induction hlength : chars.length using Nat.strong_induction_on
    generalizing position otherPosition chars with
  | _ length ih =>
      subst hlength
      cases chars with
      | nil =>
          rw [lineFeeds, expandFrom, expandFrom]
          exact .ok .nil
      | cons c rest =>
          have hgo (after : List Char) (hshort : after.length < rest.length + 1)
              (position otherPosition : Nat) :=
            ih after.length hshort position otherPosition after rfl
          by_cases hc : c = '\r'
          · subst hc
            rw [lineFeeds_return, expandFrom_of_ne (by decide), expandFrom_of_ne (by decide)]
            by_cases hpair : rest.head? = some '\n'
            · obtain ⟨after, rfl⟩ := List.head?_eq_some_iff.mp hpair
              have hshort : after.length < ('\n' :: after).length + 1 := by
                rw [List.length_cons]
                omega
              rw [lineFeeds_passed, expandFrom_of_ne (by decide), map_map]
              exact (hgo after hshort _ _).map .pair
            · rw [lineFeeds_true hpair]
              exact (hgo rest (Nat.lt_succ_self _) _ _).map .single
          rw [lineFeeds_cons hc]
          by_cases href : c = '&'
          · subst href
            refine expandFrom_lineFeeds_reference_alike hlookup ?_ position otherPosition
            exact fun after hshort => hgo after (hshort.trans (Nat.lt_succ_self _))
          · rw [expandFrom_of_ne href, expandFrom_of_ne href]
            exact (hgo rest (Nat.lt_succ_self _) _ _).map (.kept c)

end Expansion

-----------------------------------------------------------------------------------------
-- Tables of entities
-----------------------------------------------------------------------------------------

/-- Two entities with the same name, in which there is no line break, and with related texts. -/
structure EntryAgrees (rel : List Char → List Char → Prop) (entry other : String × String)
    : Prop where
  name : other.1 = entry.1
  unbreaking : Unbreaking entry.1.toList
  text : rel entry.2.toList other.2.toList

/-- Two tables of such entities in the same order. -/
abbrev TablesAgree (rel : List Char → List Char → Prop) : Entities → Entities → Prop :=
  List.Forall₂ (EntryAgrees rel)

namespace TablesAgree

variable {rel : List Char → List Char → Prop} {entities other : Entities}

theorem lookup (h : TablesAgree rel entities other) (name : String)
    : Option.Rel (fun text otherText => rel text.toList otherText.toList) (entities.lookup name)
        (other.lookup name) := by
  induction h with
  | nil => exact .none
  | @cons entry otherEntry _ _ hentry _ ih =>
      rw [List.lookup_cons, List.lookup_cons, hentry.name]
      cases name == entry.1 with
      | true => exact .some hentry.text
      | false => exact ih

theorem lookup_of_breaking (h : TablesAgree rel entities other) {name : List Char}
    (hname : ¬ Unbreaking name)
    : entities.lookup (String.ofList name) = none ∧ other.lookup (String.ofList name) = none := by
  induction h with
  | nil => exact ⟨rfl, rfl⟩
  | @cons entry otherEntry _ _ hentry _ ih =>
      have hne : (String.ofList name == entry.1) = false := by
        refine beq_false_of_ne fun heq => hname ?_
        have hunbreaking := hentry.unbreaking
        rwa [← heq, String.toList_ofList] at hunbreaking
      rw [List.lookup_cons, List.lookup_cons, hentry.name, hne]
      exact ih

theorem lookupEntity?_of_breaking (h : TablesAgree rel entities other) {name : List Char}
    (hname : ¬ Unbreaking name)
    : lookupEntity? entities (String.ofList name) = none
      ∧ lookupEntity? other (String.ofList name) = none := by
  obtain ⟨hentities, hother⟩ := h.lookup_of_breaking hname
  rw [lookupEntity?, lookupEntity?, predefinedEntity?_of_breaking hname]
  exact ⟨hentities, hother⟩

theorem lookupEntity? (hrel : Compatible rel) (h : TablesAgree rel entities other)
    (name : String)
    : Option.Rel (fun text otherText => rel text.toList otherText.toList)
        (Markup.lookupEntity? entities name) (Markup.lookupEntity? other name) := by
  unfold Markup.lookupEntity?
  cases predefinedEntity? name with
  | some text => exact .some (hrel.refl _)
  | none => exact h.lookup name

/-- References of a value have related meanings. -/
theorem valueMeaning? (hrel : Compatible rel) (h : TablesAgree rel entities other)
    (name : List Char)
    : Option.Rel rel (Markup.valueMeaning? (Markup.lookupEntity? entities) name)
        (Markup.valueMeaning? (Markup.lookupEntity? other) name) := by
  unfold Markup.valueMeaning?
  split
  · next number =>
      cases (readCharacter number).toOption with
      | none => exact .none
      | some c => exact .some (hrel.refl [c])
  · have hname := h.lookupEntity? hrel (String.ofList name)
    generalize Markup.lookupEntity? entities (String.ofList name) = text? at hname ⊢
    generalize Markup.lookupEntity? other (String.ofList name) = otherText? at hname ⊢
    cases hname with
    | none => exact .none
    | some htext => exact .some htext

/-- A reference in text has related meanings before and after its line breaks are turned. -/
theorem resolveReference? (hrel : Compatible rel) (h : TablesAgree rel entities other)
    (name : List Char)
    : Option.Rel rel (Markup.resolveReference? entities name)
        (Markup.resolveReference? other (lineFeeds false name)) := by
  by_cases hname : Unbreaking name
  · rw [lineFeeds_of_not_mem hname.1]
    have hlookup := h.lookupEntity? hrel (String.ofList name)
    unfold Markup.resolveReference?
    generalize Markup.lookupEntity? entities (String.ofList name) = text? at hlookup ⊢
    generalize Markup.lookupEntity? other (String.ofList name) = otherText? at hlookup ⊢
    cases hlookup with
    | some htext => exact .some htext
    | none =>
        dsimp only
        split
        · generalize Option.bind _ _ = char?
          cases char? with
          | none => exact .none
          | some text => exact .some (hrel.refl text)
        · exact .none
  · have hturned := not_unbreaking_lineFeeds hname
    rw [resolveReference?_of_breaking (h.lookupEntity?_of_breaking hname).1 hname,
      resolveReference?_of_breaking (h.lookupEntity?_of_breaking hturned).2 hturned]
    exact .none

end TablesAgree

-----------------------------------------------------------------------------------------
-- Declarations
-----------------------------------------------------------------------------------------

/-- The replacement text of a literal has line breaks turned if the literal has. -/
theorem breaksTurned_replacementText (literal : List Char)
    : BreaksTurned (replacementText literal) (replacementText (lineFeeds false literal)) := by
  have hexpand
      : Alike BreaksTurned (expand predefinedEntity? literal)
          (expand predefinedEntity? (lineFeeds false literal)) :=
    expandFrom_lineFeeds_alike (fun _ => predefinedEntity?_of_breaking) _ _ _ _ literal
  unfold replacementText
  cases hfirst : expand predefinedEntity? literal with
  | ok text =>
      rw [hfirst] at hexpand
      cases hsecond : expand predefinedEntity? (lineFeeds false literal) with
      | ok otherText =>
          rw [hsecond] at hexpand
          cases hexpand with
          | ok h => exact h
      | error fault =>
          rw [hsecond] at hexpand
          cases hexpand
  | error fault =>
      rw [hfirst] at hexpand
      cases hsecond : expand predefinedEntity? (lineFeeds false literal) with
      | ok otherText =>
          rw [hsecond] at hexpand
          cases hexpand
      | error otherFault => exact .of_lineFeeds literal

/-- A step of the search, with line breaks turned. -/
def DeclarationScan.turned : DeclarationScan → DeclarationScan
  | skip rest => .skip (lineFeeds false rest)
  | found name literal rest => .found name (lineFeeds false literal) (lineFeeds false rest)
  | unclosed => .unclosed

theorem scanDeclaration_lineFeeds (chars : List Char)
    : scanDeclaration (lineFeeds false chars) = (scanDeclaration chars).turned := by
  have hblank : isBlank '\r' = true ∧ isBlank '\n' = true := by decide
  have hname : (!isBlank '\r') = false ∧ (!isBlank '\n') = false := by decide
  have hsolid {c : Char} (h : isBlank c = false) : c ≠ '\r' ∧ c ≠ '\n' := by
    constructor <;> rintro rfl <;> exact absurd h (by decide)
  unfold scanDeclaration trimStartChars
  rw [dropWhile_lineFeeds hblank.1 hblank.2]
  generalize chars.dropWhile isBlank = trimmed
  have htake
      : (lineFeeds false trimmed).takeWhile (fun c => !isBlank c)
        = trimmed.takeWhile fun c => !isBlank c :=
    takeWhile_lineFeeds_of_stop hname.1 hname.2 trimmed
  have hdrop
      : (lineFeeds false trimmed).dropWhile (fun c => !isBlank c)
        = lineFeeds false (trimmed.dropWhile fun c => !isBlank c) :=
    dropWhile_lineFeeds_of_stop hname.1 hname.2 trimmed
  have hpercent
      : (lineFeeds false trimmed).head? = some '%' ↔ trimmed.head? = some '%' :=
    head?_lineFeeds_eq_some_iff (by decide) (by decide) trimmed
  dsimp only
  rw [htake, hdrop, dropWhile_lineFeeds hblank.1 hblank.2]
  by_cases hparameter : trimmed.head? = some '%'
  · rw [if_pos hparameter, if_pos (hpercent.mpr hparameter)]
    rfl
  rw [if_neg hparameter, if_neg fun h => hparameter (hpercent.mp h)]
  cases hafter : (trimmed.dropWhile fun c => !isBlank c).dropWhile isBlank with
  | nil => rfl
  | cons quote inner =>
      obtain ⟨hreturn, hfeed⟩ := hsolid (stop_of_dropWhile_eq_cons hafter)
      rw [lineFeeds_cons hreturn]
      dsimp only
      by_cases hquote : quote = '"' ∨ quote = '\''
      · have hpiece : Unbreaking [quote] :=
          ⟨by simpa using hreturn.symm, by simpa using hfeed.symm⟩
        rw [if_pos hquote, if_pos hquote, splitOnce?_lineFeeds hpiece]
        cases splitOnce? [quote] inner with
        | none => rfl
        | some split => rfl
      · rw [if_neg hquote, if_neg hquote, ← lineFeeds_cons hreturn]
        rfl

theorem unbreaking_of_not_blank {name : List Char} (h : ∀ c ∈ name, isBlank c = false)
    : Unbreaking name :=
  ⟨fun hmem => absurd (h '\r' hmem) (by decide), fun hmem => absurd (h '\n' hmem) (by decide)⟩

/-- The declarations of a text agree before and after, by induction on its length, with as many
steps as either text can need.
-/
theorem scanDeclarations_agree {steps otherSteps : Nat} {chars : List Char}
    (hsteps : chars.length ≤ steps) (hother : (lineFeeds false chars).length ≤ otherSteps)
    : TablesAgree BreaksTurned (scanDeclarations steps chars)
        (scanDeclarations otherSteps (lineFeeds false chars)) := by
  have hkeyword : Unbreaking entityKeyword := by simp [Unbreaking, entityKeyword]
  induction steps generalizing otherSteps chars with
  | zero =>
      obtain rfl := List.length_eq_zero_iff.mp (Nat.le_zero.mp hsteps)
      cases otherSteps <;> exact .nil
  | succ steps ih =>
      have hsplit := splitOnce?_lineFeeds hkeyword false chars
      change splitOnce? entityKeyword (lineFeeds false chars)
        = (splitOnce? entityKeyword chars).map (turnSplit false) at hsplit
      cases hcut : splitOnce? entityKeyword chars with
      | none =>
          rw [hcut] at hsplit
          cases otherSteps <;> simp [scanDeclarations, hcut, hsplit]
      | some split =>
          rw [hcut] at hsplit
          have hlength := congrArg List.length (eq_append_of_splitOnce? hcut)
          have hotherLength := congrArg List.length (eq_append_of_splitOnce? hsplit)
          simp only [entityKeyword, List.length_append, List.length_cons, List.length_nil]
            at hlength hotherLength
          obtain ⟨otherSteps, rfl⟩ : ∃ fewer, otherSteps = fewer + 1 :=
            Nat.exists_eq_add_one.mpr (by omega)
          have hshort := scanDeclaration_shortens split.2
          have hotherShort := scanDeclaration_shortens (lineFeeds false split.2)
          have hscan := scanDeclaration_lineFeeds split.2
          rw [hscan] at hotherShort
          simp only [scanDeclarations, hcut, hsplit, Option.map_some, turnSplit, hscan]
          cases hfound : scanDeclaration split.2 with
          | skip rest =>
              rw [hfound] at hshort hotherShort
              simp only [DeclarationScan.turned] at hshort hotherShort ⊢
              exact ih (by omega) (by omega)
          | unclosed => exact .nil
          | found name literal rest =>
              rw [hfound] at hshort hotherShort
              simp only [DeclarationScan.turned] at hshort hotherShort ⊢
              refine .cons ⟨rfl, ?_, ?_⟩ (ih (by omega) (by omega))
              · rw [String.toList_ofList]
                exact unbreaking_of_not_blank hshort.2
              · rw [String.toList_ofList, String.toList_ofList]
                exact breaksTurned_replacementText literal

/-- A table of names without line breaks agrees with itself. -/
theorem TablesAgree.same {rel : List Char → List Char → Prop} {entities other : Entities}
    (h : TablesAgree rel entities other)
    : TablesAgree Eq entities entities := by
  induction h with
  | nil => exact .nil
  | cons hentry _ ih => exact .cons ⟨rfl, hentry.unbreaking, rfl⟩ ih

/-- The first entries of tables that agree. -/
theorem TablesAgree.firstEntries {rel : List Char → List Char → Prop}
    {entities other : Entities} (h : TablesAgree rel entities other)
    : TablesAgree rel (firstEntries entities) (firstEntries other) := by
  induction h with
  | nil => exact .nil
  | @cons entry otherEntry _ _ hentry _ ih =>
      refine .cons hentry (List.rel_filter ?_ ih)
      intro first second hagree
      simp [hagree.name, hentry.name]

theorem declaredEntities_agree (body : List Char)
    : TablesAgree BreaksTurned (declaredEntities body) (declaredEntities (lineFeeds false body)) :=
  (scanDeclarations_agree le_rfl le_rfl).firstEntries

end StoryAtlas.Markup
