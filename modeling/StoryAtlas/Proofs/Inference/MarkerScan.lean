import Mathlib.Data.List.Basic
import StoryAtlas.Text.Blank

/-! Markers found by a scan.
A scan goes through a text from left to right.  A marker is a word that announces it, blanks, one
number sign and a name, of which only the word and the name must be there, and the scan goes on
right behind it; where there is no marker it goes on with the next character.  A name reaches as
far as its characters do, and no two markers overlap.
-/

namespace StoryAtlas.Inference

open StoryAtlas.Text

/-- A character of names in markers.  The last two differ from a letter only in case. -/
def isNameChar (c : Char) : Bool :=
  c.isAlphanum || c == '_' || c == '-' || c == ':' || c == '\u017f' || c == '\u212a'

/-- The words that announce markers. -/
def markerWords : List (List Char) :=
  [['g', 'o', 't', 'o'], ['j', 'u', 'm', 'p'], ['-', '>']]

/-- Whether a text begins with a word, whatever the case of its letters. -/
def beginsWith (word text : List Char) : Bool :=
  (text.take word.length).map Char.toLower == word

/-- A marker by the offsets of its word and its name. -/
structure Marker where
  start : Nat
  nameStart : Nat
  name : List Char
deriving DecidableEq

/-- The offset behind a marker. -/
def Marker.stop (marker : Marker) : Nat :=
  marker.nameStart + marker.name.length

/-- The number of characters at an offset that satisfy a test, up to the first that does not. -/
def runLength (test : Char → Bool) (text : List Char) (offset : Nat) : Nat :=
  ((text.drop offset).takeWhile test).length

/-- The offset of a name: behind blanks and one number sign. -/
def nameStartFrom (text : List Char) (offset : Nat) : Nat :=
  let behind := offset + runLength isBlank text offset
  if text[behind]? = some '#' then behind + 1 else behind

/-- The marker at an offset, if there is one. -/
def markerAt? (text : List Char) (offset : Nat) : Option Marker := do
  let word ← markerWords.find? fun word => beginsWith word (text.drop offset)
  let nameStart := nameStartFrom text (offset + word.length)
  let name := (text.drop nameStart).takeWhile isNameChar
  if name.isEmpty then none else some ⟨offset, nameStart, name⟩

-----------------------------------------------------------------------------------------
-- Runs and words
-----------------------------------------------------------------------------------------

theorem runLength_succ {test : Char → Bool} {text : List Char} {offset : Nat}
    (h : text[offset]?.any test = true)
    : runLength test text offset = runLength test text (offset + 1) + 1 := by
  obtain ⟨c, hc, hfits⟩ := (Option.any_eq_true _ _).1 h
  obtain ⟨hlt, rfl⟩ := List.getElem?_eq_some_iff.1 hc
  rw [runLength, runLength, List.drop_eq_getElem_cons hlt, List.takeWhile_cons_of_pos hfits,
    List.length_cons]

theorem runLength_eq_zero_iff {test : Char → Bool} {text : List Char} {offset : Nat}
    : runLength test text offset = 0 ↔ text[offset]?.any test = false := by
  rw [runLength, List.length_eq_zero_iff, ← List.head?_drop]
  cases text.drop offset with
  | nil => simp
  | cons c rest => simp [List.takeWhile_cons]

/-- What holds at the end of each run and is handed back from character to character holds
everywhere, by induction on the length of the run.
-/
theorem run_induction (test : Char → Bool) (text : List Char) {motive : Nat → Prop}
    (stop : ∀ offset, text[offset]?.any test = false → motive offset)
    (step : ∀ offset, text[offset]?.any test = true → motive (offset + 1) → motive offset)
    (offset : Nat)
    : motive offset := by
  generalize hlength : runLength test text offset = length
  induction length generalizing offset with
  | zero => exact stop offset (runLength_eq_zero_iff.1 hlength)
  | succ length ih =>
      have hany : text[offset]?.any test = true :=
        Bool.of_not_eq_false fun hnot => by
          rw [runLength_eq_zero_iff.2 hnot] at hlength
          cases hlength
      exact step offset hany
        (ih (offset + 1) (Nat.succ.inj ((runLength_succ hany).symm.trans hlength)))

/-- What follows a run does not satisfy its test. -/
theorem any_getElem?_runLength (test : Char → Bool) (text : List Char) (offset : Nat)
    : text[offset + runLength test text offset]?.any test = false := by
  have hdrop : (text.drop offset).drop (runLength test text offset)
      = (text.drop offset).dropWhile test :=
    calc (text.drop offset).drop (runLength test text offset)
      _ = ((text.drop offset).takeWhile test ++ (text.drop offset).dropWhile test).drop
            (runLength test text offset) := by rw [List.takeWhile_append_dropWhile]
      _ = (text.drop offset).dropWhile test := List.drop_left
  rw [← List.head?_drop, ← List.drop_drop, hdrop]
  cases hhead : ((text.drop offset).dropWhile test).head? with
  | none => rfl
  | some c => simpa [hhead] using List.head?_dropWhile_not test (text.drop offset)

/-- A text begins with the first letter of each word that it begins with. -/
theorem head?_of_beginsWith {first : Char} {word text : List Char}
    (h : beginsWith (first :: word) text = true)
    : text.head?.map Char.toLower = some first := by
  cases text with
  | nil => simp [beginsWith] at h
  | cons c rest =>
      simp [beginsWith] at h
      simp [h.1]

/-- A text begins with one only of two words with different first letters. -/
theorem not_beginsWith_of_ne {first other : Char} {word rest text : List Char}
    (h : beginsWith (first :: word) text = true) (hne : first ≠ other)
    : beginsWith (other :: rest) text = false :=
  Bool.eq_false_iff.2 fun hother =>
    hne (Option.some.inj ((head?_of_beginsWith h).symm.trans (head?_of_beginsWith hother)))

theorem beginsWith_cons_drop (first : Char) (word text : List Char) (offset : Nat)
    : beginsWith (first :: word) (text.drop offset)
      = (text[offset]?.any (fun c => c.toLower == first)
          && beginsWith word (text.drop (offset + 1))) := by
  rw [← List.head?_drop, ← List.tail_drop]
  cases text.drop offset with
  | nil => simp [beginsWith]
  | cons c rest => simp [beginsWith]

-----------------------------------------------------------------------------------------
-- One marker
-----------------------------------------------------------------------------------------

section MarkerAt

variable {text : List Char} {offset : Nat} {marker : Marker}

theorem le_nameStartFrom (text : List Char) (offset : Nat)
    : offset ≤ nameStartFrom text offset := by
  unfold nameStartFrom
  dsimp only
  split <;> omega

theorem nameStartFrom_of_not_blank (h : text[offset]?.any isBlank = false)
    : nameStartFrom text offset = if text[offset]? = some '#' then offset + 1 else offset := by
  rw [nameStartFrom, runLength_eq_zero_iff.2 h]
  rfl

theorem nameStartFrom_succ (h : text[offset]?.any isBlank = true)
    : nameStartFrom text offset = nameStartFrom text (offset + 1) := by
  rw [nameStartFrom, nameStartFrom, runLength_succ h, Nat.add_right_comm offset 1]
  rfl

/-- The parts of a marker. -/
theorem markerAt?_eq_some_iff
    : markerAt? text offset = some marker
      ↔ ∃ word,
          markerWords.find? (fun word => beginsWith word (text.drop offset)) = some word
          ∧ marker.start = offset
          ∧ marker.nameStart = nameStartFrom text (offset + word.length)
          ∧ marker.name = (text.drop marker.nameStart).takeWhile isNameChar
          ∧ marker.name ≠ [] := by
  obtain ⟨start, nameStart, name⟩ := marker
  simp only [markerAt?, Option.bind_eq_bind, Option.bind_eq_some_iff]
  constructor
  · rintro ⟨word, hword, h⟩
    split at h
    · cases h
    · next hname =>
        cases h
        exact ⟨word, hword, rfl, rfl, rfl, by simpa using hname⟩
  · rintro ⟨word, hword, rfl, rfl, rfl, hname⟩
    exact ⟨word, hword, if_neg (by simpa using hname)⟩

/-- Nothing begins with a word at the end of a text. -/
theorem markerAt?_of_length_le (h : text.length ≤ offset) : markerAt? text offset = none := by
  rw [markerAt?, List.drop_eq_nil_of_le h]
  rfl

/-- A marker starts where it was found, and its name stands behind its start. -/
theorem le_nameStart_of_markerAt? (h : markerAt? text offset = some marker)
    : marker.start = offset ∧ offset ≤ marker.nameStart := by
  obtain ⟨word, -, hstart, hname, -, -⟩ := markerAt?_eq_some_iff.1 h
  have hle := le_nameStartFrom text (offset + word.length)
  exact ⟨hstart, by omega⟩

/-- A marker reaches further than its start. -/
theorem lt_stop_of_markerAt? (h : markerAt? text offset = some marker) : offset < marker.stop := by
  obtain ⟨word, -, -, -, -, hne⟩ := markerAt?_eq_some_iff.1 h
  have hle := (le_nameStart_of_markerAt? h).2
  have hpos := List.length_pos_iff.2 hne
  unfold Marker.stop
  omega

/-- A name is not empty, stands where the marker says and reaches as far as its characters do. -/
theorem name_of_markerAt? (h : markerAt? text offset = some marker)
    : marker.name ≠ []
      ∧ marker.name.all isNameChar = true
      ∧ (text.drop marker.nameStart).take marker.name.length = marker.name
      ∧ text[marker.stop]?.any isNameChar = false := by
  obtain ⟨word, -, -, -, hname, hne⟩ := markerAt?_eq_some_iff.1 h
  have hstop : marker.stop = marker.nameStart + runLength isNameChar text marker.nameStart := by
    rw [Marker.stop, runLength, ← hname]
  refine ⟨hne, ?_, ?_, ?_⟩
  · rw [hname]
    exact List.all_takeWhile
  · exact (List.prefix_iff_eq_take.1 (hname ▸ List.takeWhile_prefix _)).symm
  · rw [hstop]
    exact any_getElem?_runLength isNameChar text marker.nameStart

end MarkerAt

-----------------------------------------------------------------------------------------
-- All markers
-----------------------------------------------------------------------------------------

/-- The markers from an offset on. -/
def markersFrom (text : List Char) (offset : Nat) : List Marker :=
  if offset < text.length then
    match h : markerAt? text offset with
    | none => markersFrom text (offset + 1)
    | some marker => marker :: markersFrom text marker.stop
  else []
termination_by text.length - offset
decreasing_by
  · omega
  · have hlt := lt_stop_of_markerAt? h
    omega

/-- All markers of a text. -/
def markersOf (text : List Char) : List Marker :=
  markersFrom text 0

/-- Behind its first marker a scan goes on as from there, by induction on the scan. -/
theorem markersFrom_eq_cons {text : List Char} {offset : Nat} {first : Marker}
    {rest : List Marker} (h : markersFrom text offset = first :: rest)
    : rest = markersFrom text first.stop ∧ first.start < text.length := by
  fun_induction markersFrom text offset with
  | case1 offset hlt hnone ih => exact ih h
  | case2 offset hlt marker hmarker ih =>
      obtain ⟨rfl, rfl⟩ := List.cons.inj h
      exact ⟨rfl, (le_nameStart_of_markerAt? hmarker).1 ▸ hlt⟩
  | case3 offset hge => cases h

/-- The markers of a scan are found at their starts, by induction on the scan. -/
theorem markerAt?_of_mem_markersFrom {text : List Char} {offset : Nat} {marker : Marker}
    (h : marker ∈ markersFrom text offset)
    : markerAt? text marker.start = some marker ∧ offset ≤ marker.start := by
  fun_induction markersFrom text offset with
  | case1 offset hlt hnone ih => exact (ih h).imp_right Nat.le_of_succ_le
  | case2 offset hlt first hfirst ih =>
      have hstart := (le_nameStart_of_markerAt? hfirst).1
      rcases List.mem_cons.1 h with rfl | hrest
      · exact ⟨hstart.symm ▸ hfirst, Nat.le_of_eq hstart.symm⟩
      · exact (ih hrest).imp_right (Nat.le_trans (Nat.le_of_lt (lt_stop_of_markerAt? hfirst)))
  | case3 offset hge => cases h

/-- A marker stops before the next ones start, by induction on the scan. -/
theorem pairwise_markersFrom (text : List Char) (offset : Nat)
    : (markersFrom text offset).Pairwise fun first second => first.stop ≤ second.start := by
  fun_induction markersFrom text offset with
  | case1 offset hlt hnone ih => exact ih
  | case2 offset hlt first hfirst ih =>
      exact List.pairwise_cons.2
        ⟨fun second hsecond => (markerAt?_of_mem_markersFrom hsecond).2, ih⟩
  | case3 offset hge => exact List.Pairwise.nil

end StoryAtlas.Inference
