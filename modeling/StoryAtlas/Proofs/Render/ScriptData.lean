import Mathlib.Data.List.Infix
import StoryAtlas.Proofs.Render.Tokenizer
import StoryAtlas.Proofs.Text.Letters

/-! Script data without an end tag.
While no `</` comes, script data ends no tag, but it need not stay what it is: behind `<!--` it is
escaped, and behind a following `<script` it is doubly escaped, so that the next end tag of a
script is part of it.  Whether that has happened is told from the text alone.
-/

namespace StoryAtlas.Render.Html

-----------------------------------------------------------------------------------------
-- Comments and script tags in a text
-----------------------------------------------------------------------------------------

/-- A text leaves a comment open in which the given text stands.  The dashes that begin the
comment can be among those that end it.
-/
def LeavesComment (chars inside : List Char) : Prop :=
  (∃ before, chars = before ++ ['<', '!', '-', '-'] ++ inside)
    ∧ ¬ ['-', '-', '>'] <:+: '-' :: '-' :: inside

/-- A script tag begins in a text, which goes on behind its name. -/
def OpensScript (chars : List Char) : Prop :=
  ∃ before name delimiter after,
    chars = before ++ '<' :: name ++ delimiter :: after
      ∧ name.map Char.toLower = "script".toList
      ∧ endsName delimiter = true

/-- A text leaves a comment open. -/
def Commented (chars : List Char) : Prop :=
  ∃ inside, LeavesComment chars inside

/-- A text leaves a comment open in which a script tag begins. -/
def LeavesScript (chars : List Char) : Prop :=
  ∃ inside, LeavesComment chars inside ∧ OpensScript inside

/-- A text ends with a `<` and letters, which are the given ones in small letters. -/
def EndsWithTag (chars name : List Char) : Prop :=
  ∃ before letters,
    chars = before ++ '<' :: letters
      ∧ (∀ c ∈ letters, c.isAlpha = true)
      ∧ letters.map Char.toLower = name

/-- A word ends a longer text by its last character, and its others end the text before. -/
theorem suffix_concat_iff {word chars : List Char} {c : Char} (h : word ≠ [])
    : word <:+ chars ++ [c] ↔ some c = word.getLast? ∧ word.dropLast <:+ chars := by
  obtain ⟨front, last, rfl⟩ := (List.eq_nil_or_concat word).resolve_left h
  rw [← List.reverse_prefix]
  simp [List.cons_prefix_cons, eq_comm]

/-- Texts with a character behind them are the same if the characters and the texts are. -/
theorem of_concat_eq_append {chars left right : List Char} {c d : Char}
    (h : chars ++ [c] = left ++ (right ++ [d]))
    : chars = left ++ right ∧ c = d := by
  rw [← List.append_assoc] at h
  exact (List.append_inj' h rfl).imp_right List.singleton_inj.1

theorem LeavesScript.commented {chars : List Char} (h : LeavesScript chars) : Commented chars :=
  h.imp fun _ => And.left

/-- An open comment goes on unless it is ended. -/
theorem leavesComment_concat_iff {chars inside : List Char} {c : Char}
    : LeavesComment (chars ++ [c]) (inside ++ [c])
      ↔ LeavesComment chars inside ∧ ¬ ['-', '-', '>'] <:+ chars ++ [c] := by
  constructor
  · rintro ⟨⟨before, hchars⟩, hopen⟩
    obtain ⟨hbefore, -⟩ := of_concat_eq_append hchars
    refine ⟨⟨⟨before, hbefore⟩, fun hinside => ?_⟩, fun hended => ?_⟩
    · exact hopen (hinside.trans (List.prefix_append ('-' :: '-' :: inside) [c]).isInfix)
    · have hdashes : '-' :: '-' :: (inside ++ [c]) <:+ chars ++ [c] :=
        ⟨before ++ ['<', '!'], by simp [hbefore]⟩
      exact hopen (List.suffix_of_suffix_length_le hended hdashes (by simp)).isInfix
  · rintro ⟨⟨⟨before, rfl⟩, hopen⟩, hended⟩
    refine ⟨⟨before, by simp⟩, fun hinside => ?_⟩
    rw [← List.cons_append, ← List.cons_append, List.infix_concat_iff] at hinside
    rcases hinside with hsuffix | hinner
    · exact hended (hsuffix.trans ⟨before ++ ['<', '!'], by simp⟩)
    · exact hopen hinner

/-- A comment is open when it has just begun, or when it was open and is not ended. -/
theorem commented_concat_iff {chars : List Char} {c : Char}
    : Commented (chars ++ [c])
      ↔ ['<', '!', '-', '-'] <:+ chars ++ [c]
        ∨ Commented chars ∧ ¬ ['-', '-', '>'] <:+ chars ++ [c] := by
  constructor
  · rintro ⟨inside, hleaves⟩
    rcases List.eq_nil_or_concat' inside with rfl | ⟨inside, d, rfl⟩
    · obtain ⟨⟨before, hchars⟩, -⟩ := hleaves
      exact Or.inl ⟨before, by rw [hchars, List.append_nil]⟩
    · obtain ⟨before, hchars⟩ := hleaves.1
      obtain ⟨-, rfl⟩ := of_concat_eq_append hchars
      obtain ⟨hbefore, hended⟩ := leavesComment_concat_iff.1 hleaves
      exact Or.inr ⟨⟨inside, hbefore⟩, hended⟩
  · rintro (⟨before, hchars⟩ | ⟨⟨inside, hbefore⟩, hended⟩)
    · exact ⟨[], ⟨before, by rw [← hchars, List.append_nil]⟩, by decide⟩
    · exact ⟨inside ++ [c], leavesComment_concat_iff.2 ⟨hbefore, hended⟩⟩

/-- A text that ends with a tag goes on with its letters. -/
theorem endsWithTag_concat_iff {chars name : List Char} {c : Char}
    : EndsWithTag (chars ++ [c]) name
      ↔ c = '<' ∧ name = []
        ∨ c.isAlpha = true ∧ ∃ front, name = front ++ [c.toLower] ∧ EndsWithTag chars front := by
  constructor
  · rintro ⟨before, letters, hchars, hletters, rfl⟩
    rcases List.eq_nil_or_concat' letters with rfl | ⟨front, last, rfl⟩
    · have hless := List.append_inj_right' hchars rfl
      exact Or.inl ⟨List.singleton_inj.1 hless, rfl⟩
    · rw [← List.cons_append] at hchars
      obtain ⟨hfront, rfl⟩ := of_concat_eq_append hchars
      have hlast := hletters c (by simp)
      have hbefore : ∀ d ∈ front, d.isAlpha = true :=
        fun d hd => hletters d (List.mem_append_left _ hd)
      exact Or.inr ⟨hlast, front.map Char.toLower, by simp, before, front, hfront, hbefore, rfl⟩
  · rintro (⟨rfl, rfl⟩ | ⟨hc, front, rfl, before, letters, rfl, hletters, rfl⟩)
    · exact ⟨chars, [], rfl, by simp, rfl⟩
    · refine ⟨before, letters ++ [c], by simp, fun d hd => ?_, by simp⟩
      rcases List.mem_append.1 hd with hmem | hmem
      · exact hletters d hmem
      · rw [List.mem_singleton.1 hmem]
        exact hc

/-- A text ends with one tag at most, by induction on the text from its end. -/
theorem EndsWithTag.unique {chars name other : List Char} (h : EndsWithTag chars name)
    (hother : EndsWithTag chars other)
    : name = other := by
  have hless : ('<' : Char).isAlpha ≠ true := by decide
  induction chars using List.reverseRecOn generalizing name other with
  | nil =>
      obtain ⟨before, letters, hchars, -⟩ := h
      simp at hchars
  | append_singleton chars c ih =>
      rcases endsWithTag_concat_iff.1 h with ⟨rfl, rfl⟩ | ⟨hc, front, rfl, hfront⟩
      · rcases endsWithTag_concat_iff.1 hother with ⟨-, rfl⟩ | ⟨hc, -⟩
        · rfl
        · exact absurd hc hless
      · rcases endsWithTag_concat_iff.1 hother with ⟨rfl, -⟩ | ⟨-, front', rfl, hfront'⟩
        · exact absurd hc hless
        · rw [ih hfront hfront']

/-- No tag ends with a dash. -/
theorem EndsWithTag.not_dash {chars name : List Char} (h : EndsWithTag chars name)
    : ¬ ['-'] <:+ chars := by
  rintro ⟨front, rfl⟩
  rcases endsWithTag_concat_iff.1 h with ⟨hless, -⟩ | ⟨hletter, -⟩
  · exact absurd hless (by decide)
  · exact absurd hletter (by decide)

/-- In a text that goes on, a script tag begins when it did before or when its name ends here. -/
theorem opensScript_concat_iff {chars : List Char} {c : Char}
    : OpensScript (chars ++ [c])
      ↔ OpensScript chars
        ∨ endsName c = true ∧ ∃ before name,
          chars = before ++ '<' :: name ∧ name.map Char.toLower = "script".toList := by
  constructor
  · rintro ⟨before, name, delimiter, after, hchars, hname, hdelimiter⟩
    rcases List.eq_nil_or_concat' after with rfl | ⟨after, last, rfl⟩
    · obtain rfl := List.singleton_inj.1 (List.append_inj_right' hchars rfl)
      exact Or.inr ⟨hdelimiter, before, name, List.append_cancel_right hchars, hname⟩
    · rw [← List.cons_append] at hchars
      obtain ⟨hfront, -⟩ := of_concat_eq_append hchars
      exact Or.inl ⟨before, name, delimiter, after, hfront, hname, hdelimiter⟩
  · rintro (⟨before, name, delimiter, after, rfl, hname, hdelimiter⟩
      | ⟨hdelimiter, before, name, rfl, hname⟩)
    · exact ⟨before, name, delimiter, after ++ [c], by simp, hname, hdelimiter⟩
    · exact ⟨before, name, c, [], by simp, hname, hdelimiter⟩

/-- A script tag at the end of a text is a tag there. -/
theorem endsWithTag_script (before : List Char) {name : List Char}
    (h : name.map Char.toLower = "script".toList)
    : EndsWithTag (before ++ '<' :: name) "script".toList := by
  refine ⟨before, name, rfl, fun c hc => ?_, h⟩
  have hletters : "script".toList.all Char.isAlpha = true := by decide
  have hsmall : c.toLower ∈ "script".toList := h ▸ List.mem_map_of_mem hc
  exact Text.isAlpha_of_toLower (List.all_eq_true.1 hletters c.toLower hsmall)

/-- A tag at the end of a text stands in the comment that is open there. -/
theorem LeavesComment.endsWithTag {chars inside name : List Char}
    (h : LeavesComment chars inside) (htag : EndsWithTag chars name)
    : ∃ before letters, inside = before ++ '<' :: letters ∧ letters.map Char.toLower = name := by
  obtain ⟨⟨before, hchars⟩, -⟩ := h
  obtain ⟨front, letters, hfront, hletters, rfl⟩ := htag
  have hdash : '-' :: inside <:+ chars := ⟨before ++ ['<', '!', '-'], by simp [hchars]⟩
  have hless : '<' :: letters <:+ chars := ⟨front, hfront.symm⟩
  rcases List.suffix_or_suffix_of_suffix hdash hless with hsuffix | hsuffix
  · have hmem : '-' ∈ '<' :: letters := hsuffix.subset List.mem_cons_self
    rcases List.mem_cons.1 hmem with heq | hmem
    · exact absurd heq (by decide)
    · exact absurd (hletters _ hmem) (by decide)
  · rcases List.suffix_cons_iff.1 hsuffix with heq | ⟨middle, hmiddle⟩
    · exact absurd (List.cons.inj heq).1 (by decide)
    · exact ⟨middle, letters, hmiddle.symm, rfl⟩

/-- A script tag is left open when it was open and the comment is not ended, or when its name ends
here in an open comment.
-/
theorem leavesScript_concat_iff {chars : List Char} {c : Char}
    : LeavesScript (chars ++ [c])
      ↔ LeavesScript chars ∧ ¬ ['-', '-', '>'] <:+ chars ++ [c]
        ∨ endsName c = true ∧ Commented chars ∧ EndsWithTag chars "script".toList := by
  constructor
  · rintro ⟨inside, hleaves, hopens⟩
    rcases List.eq_nil_or_concat' inside with rfl | ⟨inside, d, rfl⟩
    · obtain ⟨before, name, delimiter, after, hnil, -⟩ := hopens
      simp at hnil
    · obtain ⟨before, hchars⟩ := hleaves.1
      obtain ⟨hbefore, rfl⟩ := of_concat_eq_append hchars
      obtain ⟨hcomment, hended⟩ := leavesComment_concat_iff.1 hleaves
      rcases opensScript_concat_iff.1 hopens with hopens | ⟨hc, front, name, rfl, hname⟩
      · exact Or.inl ⟨⟨inside, hcomment, hopens⟩, hended⟩
      · have htag := endsWithTag_script (before ++ ['<', '!', '-', '-'] ++ front) hname
        rw [List.append_assoc, ← hbefore] at htag
        exact Or.inr ⟨hc, ⟨_, hcomment⟩, htag⟩
  · rintro (⟨⟨inside, hcomment, hopens⟩, hended⟩ | ⟨hc, ⟨inside, hcomment⟩, htag⟩)
    · exact ⟨inside ++ [c], leavesComment_concat_iff.2 ⟨hcomment, hended⟩,
        opensScript_concat_iff.2 (Or.inl hopens)⟩
    · have hended : ¬ ['-', '-', '>'] <:+ chars ++ [c] := by
        rw [suffix_concat_iff (by simp)]
        rintro ⟨-, hdashes⟩
        exact htag.not_dash ((List.suffix_append ['-'] ['-']).trans hdashes)
      obtain ⟨before, name, hinside, hname⟩ := hcomment.endsWithTag htag
      exact ⟨inside ++ [c], leavesComment_concat_iff.2 ⟨hcomment, hended⟩,
        opensScript_concat_iff.2 (Or.inr ⟨hc, before, name, hinside, hname⟩)⟩

-----------------------------------------------------------------------------------------
-- Regions
-----------------------------------------------------------------------------------------

/-- What the text read so far says about the region of script data it leads to. -/
def Region.Holds (chars : List Char) : Region → Prop
  | .script => ¬ Commented chars
  | .escaped => Commented chars ∧ ¬ LeavesScript chars
  | .doubleEscaped => LeavesScript chars
  | _ => False

variable {chars : List Char} {c : Char}

/-- Script data is not escaped while no comment begins. -/
theorem Region.Holds.script (h : Region.script.Holds chars)
    (hbegun : c = '-' → ¬ ['<', '!', '-'] <:+ chars)
    : Region.script.Holds (chars ++ [c]) := by
  intro hcomment
  rcases commented_concat_iff.1 hcomment with hsuffix | ⟨hopen, -⟩
  · rw [suffix_concat_iff (by simp)] at hsuffix
    exact hbegun (Option.some_inj.1 hsuffix.1) hsuffix.2
  · exact h hopen

/-- The second dash begins a comment. -/
theorem Region.Holds.begin (h : Region.script.Holds chars) (hsuffix : ['<', '!', '-'] <:+ chars)
    : Region.escaped.Holds (chars ++ ['-']) := by
  constructor
  · exact commented_concat_iff.2 (Or.inl ((suffix_concat_iff (by simp)).2 ⟨rfl, hsuffix⟩))
  · intro hscript
    rcases leavesScript_concat_iff.1 hscript with ⟨hbefore, -⟩ | ⟨hdash, -⟩
    · exact h hbefore.commented
    · exact absurd hdash (by decide)

/-- A comment goes on while it is not ended, and without a script tag. -/
theorem Region.Holds.escaped (h : Region.escaped.Holds chars)
    (hended : c = '>' → ¬ ['-', '-'] <:+ chars)
    (htag : endsName c = true → ¬ EndsWithTag chars "script".toList)
    : Region.escaped.Holds (chars ++ [c]) := by
  constructor
  · refine commented_concat_iff.2 (Or.inr ⟨h.1, fun hsuffix => ?_⟩)
    rw [suffix_concat_iff (by simp)] at hsuffix
    exact hended (Option.some_inj.1 hsuffix.1) hsuffix.2
  · intro hscript
    rcases leavesScript_concat_iff.1 hscript with ⟨hbefore, -⟩ | ⟨hc, -, hends⟩
    · exact h.2 hbefore
    · exact htag hc hends

/-- The name of a script tag ends in a comment. -/
theorem Region.Holds.double (h : Region.escaped.Holds chars) (hc : endsName c = true)
    (htag : EndsWithTag chars "script".toList)
    : Region.doubleEscaped.Holds (chars ++ [c]) :=
  leavesScript_concat_iff.2 (Or.inr ⟨hc, h.1, htag⟩)

/-- A script tag stays open while its comment is not ended. -/
theorem Region.Holds.doubleEscaped (h : Region.doubleEscaped.Holds chars)
    (hended : c = '>' → ¬ ['-', '-'] <:+ chars)
    : Region.doubleEscaped.Holds (chars ++ [c]) := by
  refine leavesScript_concat_iff.2 (Or.inl ⟨h, fun hsuffix => ?_⟩)
  rw [suffix_concat_iff (by simp)] at hsuffix
  exact hended (Option.some_inj.1 hsuffix.1) hsuffix.2

/-- The end of a comment ends all that was open. -/
theorem Region.holds_script_of_ended (hsuffix : ['-', '-'] <:+ chars)
    : Region.script.Holds (chars ++ ['>']) := by
  intro hcomment
  rcases commented_concat_iff.1 hcomment with hbegun | ⟨-, hended⟩
  · rw [suffix_concat_iff (by simp)] at hbegun
    exact absurd hbegun.1 (by decide)
  · exact hended ((suffix_concat_iff (by simp)).2 ⟨rfl, hsuffix⟩)

-----------------------------------------------------------------------------------------
-- States
-----------------------------------------------------------------------------------------

/-- What the text read so far says about the state it leads to. -/
def State.Holds (chars : List Char) : State → Prop
  | .text .script =>
      Region.script.Holds chars
        ∧ ¬ ['<'] <:+ chars ∧ ¬ ['<', '!'] <:+ chars ∧ ¬ ['<', '!', '-'] <:+ chars
  | .text .escaped =>
      Region.escaped.Holds chars ∧ ¬ ['-'] <:+ chars ∧ ∀ name, ¬ EndsWithTag chars name
  | .text .doubleEscaped => Region.doubleEscaped.Holds chars ∧ ¬ ['-'] <:+ chars
  | .less region => region.Holds chars ∧ ['<'] <:+ chars
  | .escapeStart => Region.script.Holds chars ∧ ['<', '!'] <:+ chars
  | .escapeStartDash => Region.script.Holds chars ∧ ['<', '!', '-'] <:+ chars
  | .dash region =>
      region.Holds chars ∧ region ≠ .script ∧ ['-'] <:+ chars ∧ ¬ ['-', '-'] <:+ chars
  | .dashes region => region.Holds chars ∧ region ≠ .script ∧ ['-', '-'] <:+ chars
  | .doubleStart name => Region.escaped.Holds chars ∧ EndsWithTag chars name
  | _ => False

/-- A text ends in one way only. -/
theorem getLast?_eq_of_suffix {a b : Char} {word other : List Char} (hword : a :: word <:+ chars)
    (hother : b :: other <:+ chars)
    : (a :: word).getLast? = (b :: other).getLast? := by
  obtain ⟨front, rfl⟩ := hword
  obtain ⟨front', hsame⟩ := hother
  rw [← List.getLast?_append_of_ne_nil front (List.cons_ne_nil a word), ← hsame,
    List.getLast?_append_of_ne_nil front' (List.cons_ne_nil b other)]

/-- An end of a text and a character are an end of the text with the character. -/
theorem suffix_concat {word : List Char} (h : word <:+ chars) : word ++ [c] <:+ chars ++ [c] := by
  obtain ⟨front, rfl⟩ := h
  exact ⟨front, by simp⟩

theorem singleton_suffix_concat_iff {a : Char} : [a] <:+ chars ++ [c] ↔ c = a := by
  simp [eq_comm]

/-- Script data goes on as it was, with its next `<` told apart. -/
theorem holds_textNext_script (h : Region.script.Holds (chars ++ [c]))
    (hbang : c = '!' → ¬ ['<'] <:+ chars) (hdash : c = '-' → ¬ ['<', '!'] <:+ chars)
    : (textNext .script c).Holds (chars ++ [c]) := by
  by_cases hless : c = '<'
  · subst hless
    exact ⟨h, singleton_suffix_concat_iff.2 rfl⟩
  · have hnext : textNext .script c = .text .script := by simp [textNext, hless]
    rw [hnext]
    refine ⟨h, fun hsuffix => hless (singleton_suffix_concat_iff.1 hsuffix), ?_, ?_⟩
    · simpa [suffix_concat_iff] using hbang
    · simpa [suffix_concat_iff] using hdash

/-- In a comment script data goes on as it was, with its next `<` and its next dash told apart. -/
theorem holds_textNext_comment {region : Region} (hregion : region ≠ .script)
    (h : region.Holds (chars ++ [c])) (hdash : c = '-' → ¬ ['-'] <:+ chars)
    (htext : c ≠ '<' → ¬ ['-'] <:+ chars ++ [c] → (State.text region).Holds (chars ++ [c]))
    : (textNext region c).Holds (chars ++ [c]) := by
  have hcomment : region = .escaped ∨ region = .doubleEscaped := by
    cases region with
    | escaped => exact Or.inl rfl
    | doubleEscaped => exact Or.inr rfl
    | script => exact absurd rfl hregion
    | data | rcdata | rawtext | plaintext => exact h.elim
  have hdata : region ≠ .data := by rcases hcomment with rfl | rfl <;> decide
  have hplain : region ≠ .plaintext := by rcases hcomment with rfl | rfl <;> decide
  by_cases hless : c = '<'
  · subst hless
    have hnext : textNext region '<' = .less region := by simp [textNext, hdata, hplain]
    rw [hnext]
    exact ⟨h, singleton_suffix_concat_iff.2 rfl⟩
  · by_cases hminus : c = '-'
    · subst hminus
      have hnext : textNext region '-' = .dash region := by simp [textNext, hplain, hcomment]
      rw [hnext]
      refine ⟨h, hregion, singleton_suffix_concat_iff.2 rfl, fun hdashes => ?_⟩
      exact hdash rfl ((suffix_concat_iff (by simp)).1 hdashes).2
    · have hnext : textNext region c = .text region := by simp [textNext, hless, hminus]
      rw [hnext]
      exact htext hless fun hsuffix => hminus (singleton_suffix_concat_iff.1 hsuffix)

/-- In escaped script data no letter goes on a tag that is not looked at. -/
theorem holds_textNext_escaped (h : Region.escaped.Holds (chars ++ [c]))
    (hdash : c = '-' → ¬ ['-'] <:+ chars)
    (hletter : c.isAlpha = true → ∀ name, ¬ EndsWithTag chars name)
    : (textNext .escaped c).Holds (chars ++ [c]) := by
  refine holds_textNext_comment (by decide) h hdash fun hless hsuffix => ⟨h, hsuffix, ?_⟩
  intro name htag
  rcases endsWithTag_concat_iff.1 htag with ⟨hc, -⟩ | ⟨hc, front, -, hfront⟩
  · exact hless hc
  · exact hletter hc front hfront

theorem holds_textNext_doubleEscaped (h : Region.doubleEscaped.Holds (chars ++ [c]))
    (hdash : c = '-' → ¬ ['-'] <:+ chars)
    : (textNext .doubleEscaped c).Holds (chars ++ [c]) :=
  holds_textNext_comment (by decide) h hdash fun _ hsuffix => ⟨h, hsuffix⟩

-----------------------------------------------------------------------------------------
-- Steps
-----------------------------------------------------------------------------------------

theorem not_dashes_of_not_dash (h : ¬ ['-'] <:+ chars) : ¬ ['-', '-'] <:+ chars :=
  fun hdashes => h ((List.suffix_append ['-'] ['-']).trans hdashes)

/-- No name ends in a letter. -/
theorem not_endsName_of_isAlpha (h : c.isAlpha = true) : ¬ endsName c = true := by
  intro hends
  simp only [endsName, isSeparator, Bool.or_eq_true, beq_iff_eq] at hends
  rcases hends with (((((rfl | rfl) | rfl) | rfl) | rfl) | rfl) | rfl <;> revert h <;> decide

variable {last : List Char}

theorem next_less (region : Region)
    : next last (.less region) c
      = if c = '/' then
          if region = .doubleEscaped then .goto (.doubleEnd []) else .goto (.lessSlash region)
        else if c = '!' ∧ region = .script then .goto .escapeStart
        else if c.isAlpha ∧ region = .escaped then .goto (.doubleStart [c.toLower])
        else .goto (textNext region c) :=
  rfl

theorem next_escapeStart
    : next last .escapeStart c
      = if c = '-' then .goto .escapeStartDash else .goto (textNext .script c) :=
  rfl

theorem next_escapeStartDash
    : next last .escapeStartDash c
      = if c = '-' then .goto (.dashes .escaped) else .goto (textNext .script c) :=
  rfl

theorem next_dash (region : Region)
    : next last (.dash region) c
      = if c = '-' then .goto (.dashes region) else .goto (textNext region c) :=
  rfl

theorem next_dashes (region : Region)
    : next last (.dashes region) c
      = if c = '-' then .goto (.dashes region)
        else if c = '>' then .goto (.text .script)
        else .goto (textNext region c) :=
  rfl

theorem next_doubleStart (name : List Char)
    : next last (.doubleStart name) c
      = if c.isAlpha then .goto (.doubleStart (name ++ [c.toLower]))
        else if endsName c then
          .goto (.text (if name = "script".toList then .doubleEscaped else .escaped))
        else .goto (textNext .escaped c) :=
  rfl

/-- A character only leads to a state that is right for the text with it. -/
def Follows (last chars : List Char) (state : State) (c : Char) : Prop :=
  ∃ following, next last state c = .goto following ∧ following.Holds (chars ++ [c])

/-- What comes behind script data that begins nothing is read as such. -/
theorem follows_textScript (h : (State.text .script).Holds chars)
    : Follows last chars (.text .script) c := by
  obtain ⟨hregion, hless, hbang, hdash⟩ := h
  refine ⟨textNext .script c, rfl, ?_⟩
  exact holds_textNext_script (hregion.script fun _ => hdash) (fun _ => hless) fun _ => hbang

theorem follows_textEscaped (h : (State.text .escaped).Holds chars)
    : Follows last chars (.text .escaped) c := by
  obtain ⟨hregion, hdash, htag⟩ := h
  refine ⟨textNext .escaped c, rfl, ?_⟩
  have hnext := hregion.escaped (c := c) (fun _ => not_dashes_of_not_dash hdash) fun _ => htag _
  exact holds_textNext_escaped hnext (fun _ => hdash) fun _ => htag

theorem follows_textDoubleEscaped (h : (State.text .doubleEscaped).Holds chars)
    : Follows last chars (.text .doubleEscaped) c := by
  obtain ⟨hregion, hdash⟩ := h
  refine ⟨textNext .doubleEscaped c, rfl, ?_⟩
  have hnext := hregion.doubleEscaped (c := c) fun _ => not_dashes_of_not_dash hdash
  exact holds_textNext_doubleEscaped hnext fun _ => hdash

/-- A `<` in a script can begin a comment. -/
theorem follows_lessScript (h : (State.less .script).Holds chars) (hslash : c ≠ '/')
    : Follows last chars (.less .script) c := by
  obtain ⟨hregion, hless⟩ := h
  have hnext : Region.script.Holds (chars ++ [c]) := hregion.script fun _ hsuffix =>
    absurd (getLast?_eq_of_suffix hsuffix hless) (by decide)
  by_cases hbang : c = '!'
  · subst hbang
    exact ⟨.escapeStart, rfl, hnext, suffix_concat hless⟩
  · refine ⟨textNext .script c, by simp [next_less, hslash, hbang], ?_⟩
    refine holds_textNext_script hnext (fun hc => absurd hc hbang) fun _ hsuffix => ?_
    exact absurd (getLast?_eq_of_suffix hsuffix hless) (by decide)

/-- Behind `<!` a comment can begin. -/
theorem follows_escapeStart (h : State.escapeStart.Holds chars)
    : Follows last chars .escapeStart c := by
  obtain ⟨hregion, hbang⟩ := h
  have hnext : Region.script.Holds (chars ++ [c]) := hregion.script fun _ hsuffix =>
    absurd (getLast?_eq_of_suffix hsuffix hbang) (by decide)
  by_cases hdash : c = '-'
  · subst hdash
    exact ⟨.escapeStartDash, rfl, hnext, suffix_concat hbang⟩
  · refine ⟨textNext .script c, by simp [next_escapeStart, hdash], ?_⟩
    refine holds_textNext_script hnext (fun _ hsuffix => ?_) fun hc => absurd hc hdash
    exact absurd (getLast?_eq_of_suffix hsuffix hbang) (by decide)

/-- A comment begins with its second dash. -/
theorem follows_escapeStartDash (h : State.escapeStartDash.Holds chars)
    : Follows last chars .escapeStartDash c := by
  obtain ⟨hregion, hsuffix⟩ := h
  have hlast : ['-'] <:+ chars := (List.suffix_append ['<', '!'] ['-']).trans hsuffix
  by_cases hdash : c = '-'
  · subst hdash
    exact ⟨.dashes .escaped, rfl, hregion.begin hsuffix, by decide, suffix_concat hlast⟩
  · refine ⟨textNext .script c, by simp [next_escapeStartDash, hdash], ?_⟩
    refine holds_textNext_script (hregion.script fun hc => absurd hc hdash) (fun _ hless => ?_)
      fun hc => absurd hc hdash
    exact absurd (getLast?_eq_of_suffix hless hlast) (by decide)

/-- Behind a dash a comment goes on, whatever its text says. -/
theorem holds_of_dash {region : Region} (h : region.Holds chars) (hregion : region ≠ .script)
    (hdash : ['-'] <:+ chars) (hended : c = '>' → ¬ ['-', '-'] <:+ chars)
    : region.Holds (chars ++ [c])
      ∧ (c ≠ '-' → (textNext region c).Holds (chars ++ [c])) := by
  have htag {name : List Char} : ¬ EndsWithTag chars name := fun hends => hends.not_dash hdash
  cases region with
  | escaped =>
      have hnext := Region.Holds.escaped h hended fun _ => htag
      refine ⟨hnext, fun hc => ?_⟩
      exact holds_textNext_escaped hnext (fun hminus => absurd hminus hc) fun _ _ => htag
  | doubleEscaped =>
      have hnext := Region.Holds.doubleEscaped h hended
      exact ⟨hnext, fun hc => holds_textNext_doubleEscaped hnext fun hminus => absurd hminus hc⟩
  | script => exact absurd rfl hregion
  | data | rcdata | rawtext | plaintext => exact h.elim

/-- Behind one dash there can be another. -/
theorem follows_dash {region : Region} (h : (State.dash region).Holds chars)
    : Follows last chars (.dash region) c := by
  obtain ⟨hholds, hregion, hdash, hdashes⟩ := h
  obtain ⟨hnext, htext⟩ := holds_of_dash (c := c) hholds hregion hdash fun _ => hdashes
  by_cases hminus : c = '-'
  · subst hminus
    exact ⟨.dashes region, rfl, hnext, hregion, suffix_concat hdash⟩
  · exact ⟨textNext region c, by simp [next_dash, hminus], htext hminus⟩

/-- Behind two dashes a comment can end. -/
theorem follows_dashes {region : Region} (h : (State.dashes region).Holds chars)
    : Follows last chars (.dashes region) c := by
  obtain ⟨hholds, hregion, hdashes⟩ := h
  have hdash : ['-'] <:+ chars := (List.suffix_append ['-'] ['-']).trans hdashes
  by_cases hend : c = '>'
  · subst hend
    refine ⟨.text .script, rfl, Region.holds_script_of_ended hdashes, ?_, ?_, ?_⟩ <;>
      simp [suffix_concat_iff]
  · obtain ⟨hnext, htext⟩ := holds_of_dash hholds hregion hdash fun hc => absurd hc hend
    by_cases hminus : c = '-'
    · subst hminus
      exact ⟨.dashes region, rfl, hnext, hregion, suffix_concat hdash⟩
    · exact ⟨textNext region c, by simp [next_dashes, hminus, hend], htext hminus⟩

/-- A `<` in a comment can begin a script tag. -/
theorem follows_lessEscaped (h : (State.less .escaped).Holds chars) (hslash : c ≠ '/')
    : Follows last chars (.less .escaped) c := by
  obtain ⟨hregion, hless⟩ := h
  have hempty : EndsWithTag chars [] := by
    obtain ⟨front, rfl⟩ := hless
    exact endsWithTag_concat_iff.2 (Or.inl ⟨rfl, rfl⟩)
  have hnext : Region.escaped.Holds (chars ++ [c]) := by
    refine hregion.escaped (fun _ hdashes => ?_) fun _ htag => ?_
    · exact absurd (getLast?_eq_of_suffix hdashes hless) (by decide)
    · exact absurd (htag.unique hempty) (by decide)
  by_cases hletter : c.isAlpha = true
  · refine ⟨.doubleStart [c.toLower], ?_, hnext, ?_⟩
    · simp [next_less, hslash, hletter]
    · exact endsWithTag_concat_iff.2 (Or.inr ⟨hletter, [], rfl, hempty⟩)
  · refine ⟨textNext .escaped c, by simp [next_less, hslash, hletter], ?_⟩
    refine holds_textNext_escaped hnext (fun _ hdash => ?_) fun hc => absurd hc hletter
    exact absurd (getLast?_eq_of_suffix hdash hless) (by decide)

theorem follows_lessDoubleEscaped (h : (State.less .doubleEscaped).Holds chars) (hslash : c ≠ '/')
    : Follows last chars (.less .doubleEscaped) c := by
  obtain ⟨hregion, hless⟩ := h
  have hnext : Region.doubleEscaped.Holds (chars ++ [c]) := hregion.doubleEscaped
    fun _ hdashes => absurd (getLast?_eq_of_suffix hdashes hless) (by decide)
  refine ⟨textNext .doubleEscaped c, by simp [next_less, hslash], ?_⟩
  refine holds_textNext_doubleEscaped hnext fun _ hdash => ?_
  exact absurd (getLast?_eq_of_suffix hdash hless) (by decide)

/-- A script tag begins in a comment when the name behind a `<` ends. -/
theorem follows_doubleStart {name : List Char} (h : (State.doubleStart name).Holds chars)
    : Follows last chars (.doubleStart name) c := by
  obtain ⟨hregion, htag⟩ := h
  have hdash := htag.not_dash
  have hended (_ : c = '>') : ¬ ['-', '-'] <:+ chars := not_dashes_of_not_dash hdash
  by_cases hletter : c.isAlpha = true
  · have hname := not_endsName_of_isAlpha hletter
    refine ⟨.doubleStart (name ++ [c.toLower]), by simp [next_doubleStart, hletter], ?_, ?_⟩
    · exact hregion.escaped hended fun hends => absurd hends hname
    · exact endsWithTag_concat_iff.2 (Or.inr ⟨hletter, name, rfl, htag⟩)
  · by_cases hends : endsName c = true
    · have hminus : ¬ ['-'] <:+ chars ++ [c] := by
        intro hsuffix
        obtain rfl := singleton_suffix_concat_iff.1 hsuffix
        exact absurd hends (by decide)
      by_cases hscript : name = "script".toList
      · subst hscript
        refine ⟨.text .doubleEscaped, by simp [next_doubleStart, hletter, hends], ?_, hminus⟩
        exact hregion.double hends htag
      · refine ⟨.text .escaped, ?_, ?_, hminus, ?_⟩
        · rw [next_doubleStart, if_neg hletter, if_pos hends, if_neg hscript]
        · exact hregion.escaped hended fun _ hother => hscript (htag.unique hother)
        · intro other hother
          rcases endsWithTag_concat_iff.1 hother with ⟨rfl, -⟩ | ⟨hc, -⟩
          · exact absurd hends (by decide)
          · exact hletter hc
    · refine ⟨textNext .escaped c, by simp [next_doubleStart, hletter, hends], ?_⟩
      have hnext := hregion.escaped hended fun hc => absurd hc hends
      exact holds_textNext_escaped hnext (fun _ => hdash) fun hc => absurd hc hletter

/-- Without a `</` a character only leads on, and what the text says stays right, by cases on the
state.
-/
theorem State.Holds.follows {state : State} (h : state.Holds chars)
    (last : List Char) (hslash : c = '/' → ¬ ['<'] <:+ chars)
    : Follows last chars state c := by
  cases state with
  | text region =>
      cases region with
      | script => exact follows_textScript h
      | escaped => exact follows_textEscaped h
      | doubleEscaped => exact follows_textDoubleEscaped h
      | data | rcdata | rawtext | plaintext => exact h.elim
  | less region =>
      have hother : c ≠ '/' := fun hc => hslash hc h.2
      cases region with
      | script => exact follows_lessScript h hother
      | escaped => exact follows_lessEscaped h hother
      | doubleEscaped => exact follows_lessDoubleEscaped h hother
      | data | rcdata | rawtext | plaintext => exact h.1.elim
  | escapeStart => exact follows_escapeStart h
  | escapeStartDash => exact follows_escapeStartDash h
  | dash region => exact follows_dash h
  | dashes region => exact follows_dashes h
  | doubleStart name => exact follows_doubleStart h
  | _ => exact h.elim

-----------------------------------------------------------------------------------------
-- Runs
-----------------------------------------------------------------------------------------

/-- Script data without a `</` ends no tag, and leads to a state that is right for it, by induction
on the text from its end.
-/
theorem run_scriptData {tokenizer : Tokenizer} (hstate : tokenizer.state = .text .script)
    (hend : ¬ ['<', '/'] <:+: chars)
    : ∃ state : State, tokenizer.run chars = { tokenizer with state } ∧ state.Holds chars := by
  induction chars using List.reverseRecOn with
  | nil =>
      refine ⟨.text .script, by rw [← hstate]; rfl, ?_, by simp, by simp, by simp⟩
      rintro ⟨inside, ⟨before, hnil⟩, -⟩
      simp at hnil
  | append_singleton chars c ih =>
      have hbefore : ¬ ['<', '/'] <:+: chars := fun hinner =>
        hend (hinner.trans (List.prefix_append chars [c]).isInfix)
      obtain ⟨state, hrun, hholds⟩ := ih hbefore
      have hslash (hc : c = '/') : ¬ ['<'] <:+ chars := by
        subst hc
        exact fun hless => hend (suffix_concat hless).isInfix
      obtain ⟨following, hnext, hfollowing⟩ := hholds.follows tokenizer.last hslash
      refine ⟨following, ?_, hfollowing⟩
      rw [Tokenizer.run_append, hrun]
      exact Tokenizer.step_of_goto hnext

/-- A bracket begins and ends nothing in script data. -/
theorem State.Holds.bracket {state : State} (h : state.Holds (chars ++ [']']))
    : ∃ region : Region, state = .text region ∧ region.Holds (chars ++ [']']) := by
  cases state with
  | text region =>
      cases region with
      | script => exact ⟨_, rfl, h.1⟩
      | escaped => exact ⟨_, rfl, h.1⟩
      | doubleEscaped => exact ⟨_, rfl, h.1⟩
      | data | rcdata | rawtext | plaintext => exact h.elim
  | less region => exact absurd (singleton_suffix_concat_iff.1 h.2) (by decide)
  | escapeStart => exact absurd ((suffix_concat_iff (by simp)).1 h.2).1 (by decide)
  | escapeStartDash => exact absurd ((suffix_concat_iff (by simp)).1 h.2).1 (by decide)
  | dash region => exact absurd (singleton_suffix_concat_iff.1 h.2.2.1) (by decide)
  | dashes region => exact absurd ((suffix_concat_iff (by simp)).1 h.2.2).1 (by decide)
  | doubleStart name =>
      rcases endsWithTag_concat_iff.1 h.2 with ⟨hc, -⟩ | ⟨hc, -⟩
      · exact absurd hc (by decide)
      · exact absurd hc (by decide)
  | _ => exact h.elim

end StoryAtlas.Render.Html
