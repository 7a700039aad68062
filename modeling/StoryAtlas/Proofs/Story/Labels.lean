import StoryAtlas.Naming
import StoryAtlas.Proofs.Text.Cuts
import StoryAtlas.Proofs.Text.Trimming

/-! The labels of elements.
A label has its wording from the first attribute that gives one, or else from the text of the
element.  It is the wording itself, or as many characters of it as the settings allow with a mark
of the cut behind them.  Without a wording it is the fallback or the tag, of any length.
-/

namespace StoryAtlas.Conventions

open StoryAtlas.Text

-----------------------------------------------------------------------------------------
-- Cut texts
-----------------------------------------------------------------------------------------

/-- A label is a wording, cut to a number of characters. -/
structure CutFrom (wording : String) (limit : Nat) (label : String) : Prop where
  whole : wording.length ≤ limit → label = wording
  short : limit < wording.length → label = String.ofList (wording.toList.take limit) ++ "..."
  /-- No cut is made if no character has the number of the limit. -/
  uncut : (charOffsets 0 wording.toList)[limit]? = none → label = wording
  /-- Otherwise the cut is made at the offset of this character, which lies between two of them. -/
  cut
    : ∀ offset,
        (charOffsets 0 wording.toList)[limit]? = some offset
        → ∃ kept rest,
            wording = kept ++ rest ∧ kept.utf8ByteSize = offset ∧ label = kept ++ "..."
  length_le : label.length ≤ limit + 3
  again : truncate label limit = label

/-- The character in front of which a text is cut is that with the number of the limit, so that
the cut keeps as many characters as the limit says.
-/
theorem truncate_eq (text : String) (limit : Nat)
    : truncate text limit
      = if limit < text.length then String.ofList (text.toList.take limit) ++ ellipsis
        else text := by
  unfold truncate
  dsimp only
  rw [getElem?_charOffsets, String.length_toList, Nat.zero_add]
  by_cases hlt : limit < text.length
  · rw [if_pos hlt, if_pos hlt]
    have hcut := charsBefore_byteLength (text.toList.take limit) (text.toList.drop limit)
    rw [List.take_append_drop] at hcut
    dsimp only
    rw [hcut]
  · rw [if_neg hlt, if_neg hlt]

theorem truncate_of_length_le {text : String} {limit : Nat} (h : text.length ≤ limit)
    : truncate text limit = text := by
  rw [truncate_eq, if_neg (Nat.not_lt.2 h)]

theorem truncate_of_lt_length {text : String} {limit : Nat} (h : limit < text.length)
    : truncate text limit = String.ofList (text.toList.take limit) ++ ellipsis := by
  rw [truncate_eq, if_pos h]

theorem length_take_toList {text : String} {limit : Nat} (h : limit < text.length)
    : (text.toList.take limit).length = limit := by
  rw [List.length_take, String.length_toList, Nat.min_eq_left (Nat.le_of_lt h)]

theorem length_truncate_of_lt {text : String} {limit : Nat} (h : limit < text.length)
    : (truncate text limit).length = limit + 3 := by
  rw [truncate_of_lt_length h, String.length_append, String.length_ofList, length_take_toList h]
  rfl

/-- Cutting again changes nothing: the same characters are kept, and the same mark is set. -/
theorem truncate_truncate (text : String) (limit : Nat)
    : truncate (truncate text limit) limit = truncate text limit := by
  rcases Nat.lt_or_ge limit text.length with h | h
  · have hlonger : limit < (truncate text limit).length := by
      rw [length_truncate_of_lt h]
      omega
    have hkept : (truncate text limit).toList.take limit = text.toList.take limit := by
      rw [truncate_of_lt_length h, String.toList_append, String.toList_ofList,
        List.take_left' (length_take_toList h)]
    rw [truncate_of_lt_length hlonger, hkept, ← truncate_of_lt_length h]
  · rw [truncate_of_length_le h, truncate_of_length_le h]

theorem cutFrom_truncate (text : String) (limit : Nat)
    : CutFrom text limit (truncate text limit) := by
  have hoffset := getElem?_charOffsets 0 text.toList limit
  rw [String.length_toList] at hoffset
  exact {
    whole := truncate_of_length_le
    short := truncate_of_lt_length
    uncut := by
      intro hnone
      refine truncate_of_length_le (Nat.not_lt.1 fun hlt => ?_)
      rw [hnone, if_pos hlt] at hoffset
      cases hoffset
    cut := by
      intro offset hsome
      rw [hsome] at hoffset
      split at hoffset
      · next hlt =>
          rw [Nat.zero_add, Option.some.injEq] at hoffset
          refine ⟨String.ofList (text.toList.take limit), String.ofList (text.toList.drop limit),
            ?_, ?_, truncate_of_lt_length hlt⟩
          · rw [← String.ofList_append, List.take_append_drop, String.ofList_toList]
          · rw [utf8ByteSize_ofList, hoffset]
      · cases hoffset
    length_le := by
      rcases Nat.lt_or_ge limit text.length with h | h
      · exact Nat.le_of_eq (length_truncate_of_lt h)
      · rw [truncate_of_length_le h]
        omega
    again := truncate_truncate text limit
  }

-----------------------------------------------------------------------------------------
-- Lines joined
-----------------------------------------------------------------------------------------

theorem not_mem_joinLines (text : String) : '\n' ∉ (joinLines text).toList := by
  rw [joinLines, String.toList_ofList, List.mem_map]
  rintro ⟨c, -, hc⟩
  split at hc
  · exact absurd hc (by decide)
  · next hne => exact hne hc

/-- Joining the lines of a trimmed text leaves it trimmed: the characters at its ends are no line
feeds, so they stay.
-/
theorem trim_joinLines_trim (text : String)
    : trim (joinLines (trim text)) = joinLines (trim text) := by
  have hkept {c : Char} (h : isBlank c = false) : (if c = '\n' then ' ' else c) = c :=
    if_neg (by rintro rfl; exact absurd h (by decide))
  have htrimmed : IsTrimmed (joinLines (trim text)).toList := by
    have hends := isTrimmed_trimChars text.toList
    rw [joinLines, trim, String.toList_ofList, String.toList_ofList]
    constructor
    · intro c hc
      rw [List.head?_map] at hc
      obtain ⟨d, hd, rfl⟩ := Option.map_eq_some_iff.1 hc
      rw [hkept (hends.head d hd), hends.head d hd]
    · intro c hc
      rw [List.getLast?_map] at hc
      obtain ⟨d, hd, rfl⟩ := Option.map_eq_some_iff.1 hc
      rw [hkept (hends.last d hd), hends.last d hd]
  rw [trim, trimChars_eq_self htrimmed, String.ofList_toList]

theorem trim_eq_empty_iff {text : String} : trim text = "" ↔ isAllBlank text.toList = true := by
  rw [← trimChars_eq_nil_iff, trim, ← String.toList_inj, String.toList_ofList]
  rfl

-----------------------------------------------------------------------------------------
-- Wordings
-----------------------------------------------------------------------------------------

/-- A value is that of the first listed attribute with a value that is not empty. -/
def IsFirstValue (element : Element) (names : List String) (value : String) : Prop :=
  value ≠ ""
  ∧ ∃ before name after,
      names = before ++ name :: after
      ∧ element.attributes.get? name = some value
      ∧ ∀ earlier ∈ before, ∀ other, element.attributes.get? earlier = some other → other = ""

theorem firstPresent?_eq_some_iff {element : Element} {names : List String} {value : String}
    : firstPresent? element names = some value ↔ IsFirstValue element names value := by
  rw [firstPresent?, List.find?_filterMap, Option.bind_eq_some_iff]
  constructor
  · rintro ⟨name, hfind, hvalue⟩
    obtain ⟨hany, before, after, hnames, hbefore⟩ := List.find?_eq_some_iff_append.1 hfind
    refine ⟨by simpa [hvalue] using hany, before, name, after, hnames, hvalue, ?_⟩
    intro earlier hearlier other hother
    simpa [hother] using hbefore earlier hearlier
  · rintro ⟨hne, before, name, after, hnames, hvalue, hbefore⟩
    refine ⟨name, List.find?_eq_some_iff_append.2 ⟨?_, before, after, hnames, ?_⟩, hvalue⟩
    · simpa [hvalue] using hne
    · intro earlier hearlier
      cases hother : element.attributes.get? earlier with
      | none => rfl
      | some other => simp [hbefore earlier hearlier other hother]

theorem firstPresent?_eq_none_iff {element : Element} {names : List String}
    : firstPresent? element names = none ↔ ¬ ∃ value, IsFirstValue element names value := by
  rw [Option.eq_none_iff_forall_ne_some, not_exists]
  exact forall_congr' fun value => not_congr firstPresent?_eq_some_iff

/-- What the label of an element says before it is cut: the first of its label attributes that is
not empty, or else its text in one line, unless this is blank.
-/
inductive Wording (conventions : Conventions) (element : Element) : String → Prop
  | ofAttribute {value : String}
    (first : IsFirstValue element conventions.labelAttributes value)
    : conventions.Wording element (trim value)
  | ofText
    (absent : ¬ ∃ value, IsFirstValue element conventions.labelAttributes value)
    (seen : isAllBlank element.text.toList = false)
    : conventions.Wording element (joinLines (trim element.text))

theorem labelFor_of_wording {conventions : Conventions} {element : Element} {wording : String}
    (h : conventions.Wording element wording) (fallback : Option String)
    : conventions.labelFor element fallback = truncate wording conventions.maxLabelLength := by
  unfold labelFor
  cases h with
  | ofAttribute first => rw [firstPresent?_eq_some_iff.2 first]
  | ofText absent seen =>
      have hseen : trim element.text ≠ "" := fun hempty =>
        Bool.eq_false_iff.1 seen (trim_eq_empty_iff.1 hempty)
      rw [firstPresent?_eq_none_iff.2 absent]
      dsimp only
      rw [if_pos hseen, trim_joinLines_trim]

theorem labelFor_of_no_wording {conventions : Conventions} {element : Element}
    (h : ¬ ∃ wording, conventions.Wording element wording) (fallback : Option String)
    : conventions.labelFor element fallback
      = (fallback.filter fun text => text ≠ "").getD element.tag := by
  have habsent : ¬ ∃ value, IsFirstValue element conventions.labelAttributes value :=
    fun ⟨_, first⟩ => h ⟨_, .ofAttribute first⟩
  have hblank : trim element.text = "" := by
    rw [trim_eq_empty_iff, ← Bool.not_eq_false]
    exact fun seen => h ⟨_, .ofText habsent seen⟩
  unfold labelFor
  rw [firstPresent?_eq_none_iff.2 habsent]
  dsimp only
  rw [hblank, if_neg (not_not_intro rfl)]
  cases fallback with
  | none => rfl
  | some text => by_cases hempty : text = "" <;> simp [hempty, Option.filter]

/-- The label of an element is cut from its wording, if it has one, and is the fallback or else the
tag otherwise, whole in any case.  The wording of a text has no line feeds and no blanks at its
ends.
-/
theorem labelFor_cutFrom_or_fallback (conventions : Conventions) (element : Element)
    (fallback : Option String)
    : (∀ wording,
          conventions.Wording element wording
          → CutFrom wording conventions.maxLabelLength (conventions.labelFor element fallback))
      ∧ ((¬ ∃ wording, conventions.Wording element wording)
          → conventions.labelFor element fallback
            = (fallback.filter fun text => text ≠ "").getD element.tag)
      ∧ trim (joinLines (trim element.text)) = joinLines (trim element.text)
      ∧ '\n' ∉ (joinLines (trim element.text)).toList := by
  refine ⟨fun wording h => ?_, fun h => labelFor_of_no_wording h fallback,
    trim_joinLines_trim element.text, not_mem_joinLines (trim element.text)⟩
  rw [labelFor_of_wording h]
  exact cutFrom_truncate wording conventions.maxLabelLength

/-- A scene whose text takes two lines. -/
def wordyScene : Element :=
  { tag := "scene", attributes := .ofList [("label", "")], text := "\n Café\nopens " }

/-- A scene that says nothing. -/
def muteScene : Element :=
  { tag := "scene", attributes := .empty, text := " \n" }

/-- A text that is cut behind its first word, and a tag that is longer than labels may be. -/
theorem labelFor_cutFrom_or_fallback_of_two_scenes
    : (({ maxLabelLength := 5 } : Conventions).Wording wordyScene "Café opens"
        ∧ ({ maxLabelLength := 5 } : Conventions).labelFor wordyScene none = "Café ...")
      ∧ (¬ ∃ wording, ({ maxLabelLength := 2 } : Conventions).Wording muteScene wording)
      ∧ ({ maxLabelLength := 2 } : Conventions).labelFor muteScene (some "") = "scene" := by
  have hwording : ({ maxLabelLength := 5 } : Conventions).Wording wordyScene "Café opens" :=
    .ofText (firstPresent?_eq_none_iff.1 (by decide)) (by decide)
  have hnone : ¬ ∃ wording, ({ maxLabelLength := 2 } : Conventions).Wording muteScene wording := by
    rintro ⟨_, ⟨first⟩ | ⟨-, seen⟩⟩
    · exact firstPresent?_eq_none_iff.1 (by decide) ⟨_, first⟩
    · exact absurd seen (by decide)
  exact ⟨⟨hwording, ((labelFor_cutFrom_or_fallback _ _ none).1 _ hwording).short (by decide)⟩,
    hnone, (labelFor_cutFrom_or_fallback _ _ (some "")).2.1 hnone⟩

end StoryAtlas.Conventions
