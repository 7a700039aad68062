import StoryAtlas.Proofs.Inference.MarkerScan
import StoryAtlas.Proofs.Pattern.Backtracking
import StoryAtlas.Proofs.Text.Letters
import StoryAtlas.Story

/-! Markers found by the standard pattern.
The pattern of the conventions is compiled to a program, and from each of its instructions it is
told what the instruction leads to.  Neither blanks nor a number sign are characters of names, so
coming back into them finds nothing new: the program leads from each offset to the marker there,
and its matches are the markers of a scan.
-/

namespace StoryAtlas

open StoryAtlas.Inference StoryAtlas.Pattern StoryAtlas.Text

-----------------------------------------------------------------------------------------
-- The program of the pattern
-----------------------------------------------------------------------------------------

/-- The characters of names in markers. -/
def Pattern.nameChars : CharSet :=
  ⟨[(45, 45), (48, 58), (65, 90), (95, 95), (97, 122), (383, 383), (8490, 8490)]⟩

/-- The blanks. -/
def Pattern.blanks : CharSet :=
  ⟨[(9, 13), (32, 32), (133, 133), (160, 160), (5760, 5760), (8192, 8202), (8232, 8233),
    (8239, 8239), (8287, 8287), (12288, 12288)]⟩

/-- A letter in both cases. -/
def Pattern.bothCases (small : Char) : CharSet :=
  ⟨[(small.toNat - 32, small.toNat - 32), (small.toNat, small.toNat)]⟩

/-- The pattern of markers. -/
def Pattern.marker : Pattern where
  groupCount := 2
  program :=
    {
      code :=
        #[
          .accept,
          .mark 3 0,
          .choose 3 1,
          .consume nameChars 2,
          .mark 2 3,
          .consume (.singleton '#') 4,
          .choose 5 4,
          .choose 8 6,
          .consume blanks 7,
          .consume (.singleton '>') 7,
          .consume (.singleton '-') 9,
          .consume (bothCases 'p') 7,
          .consume (bothCases 'm') 11,
          .consume (bothCases 'u') 12,
          .consume (bothCases 'j') 13,
          .choose 14 10,
          .consume (bothCases 'o') 7,
          .consume (bothCases 't') 16,
          .consume (bothCases 'o') 17,
          .consume (bothCases 'g') 18,
          .choose 19 15
        ]
      start := 20
    }

/-- A pattern by its parts, which can be compared. -/
def Pattern.parts (pattern : Pattern) : Nat × Code × Nat :=
  (pattern.groupCount, pattern.program.code, pattern.program.start)

theorem Pattern.eq_ok_of_parts {ε : Type} {compiled : Except ε Pattern} {pattern : Pattern}
    (h : compiled.toOption.map Pattern.parts = some pattern.parts)
    : compiled = .ok pattern := by
  cases compiled with
  | error fault => cases h
  | ok other =>
      obtain ⟨count, code, start⟩ := other
      obtain ⟨count', code', start'⟩ := pattern
      cases h
      rfl

/-- The pattern of the conventions compiles to the pattern of markers. -/
theorem Conventions.pattern_default : ({} : Conventions).pattern = .ok .marker :=
  Pattern.eq_ok_of_parts (by decide +kernel)

-----------------------------------------------------------------------------------------
-- The sets of the program
-----------------------------------------------------------------------------------------

theorem Pattern.contains_nameChars : nameChars.contains = isNameChar := by
  funext c
  rw [Bool.eq_iff_iff]
  simp [nameChars, CharSet.contains, CharSet.containsCode, Unicode.inRanges, isNameChar,
    isAlphanum_iff, isAlpha_iff, isDigit_iff, ← Char.toNat_inj]
  omega

theorem Pattern.contains_blanks : blanks.contains = isBlank := by
  funext c
  rw [Bool.eq_iff_iff]
  simp [blanks, CharSet.contains, CharSet.containsCode, Unicode.inRanges, isBlank]
  omega

theorem Pattern.contains_singleton (c : Char) : (CharSet.singleton c).contains = (· == c) := by
  funext other
  rw [Bool.eq_iff_iff]
  simp [CharSet.singleton, CharSet.contains, CharSet.containsCode, Unicode.inRanges,
    ← Char.toNat_inj]
  omega

/-- A character that is no letter has no other case. -/
theorem Pattern.contains_singleton_of_not_isAlpha {c : Char} (h : c.isAlpha = false)
    : (CharSet.singleton c).contains = fun other => other.toLower == c := by
  funext other
  rw [contains_singleton, Bool.eq_iff_iff, beq_iff_eq, beq_iff_eq,
    toLower_eq_iff_of_not_isAlpha h]

theorem Pattern.contains_bothCases {small : Char} (h : small.isLower = true)
    : (bothCases small).contains = fun c => c.toLower == small := by
  have hsmall : 97 ≤ small.toNat := (isLower_iff.1 h).1
  funext c
  rw [Bool.eq_iff_iff, beq_iff_eq, toLower_eq_iff_of_isLower h]
  simp [bothCases, CharSet.contains, CharSet.containsCode, Unicode.inRanges]
  omega

/-- Blanks are no characters of names. -/
theorem Inference.isNameChar_of_isBlank {c : Char} (h : isBlank c = true)
    : isNameChar c = false := by
  rw [← Pattern.contains_nameChars]
  simp [isBlank] at h
  simp [Pattern.nameChars, CharSet.contains, CharSet.containsCode, Unicode.inRanges]
  omega

/-- Ranks for the instructions of the program, which fall from its start on. -/
def Pattern.markerRank : Nat → Nat
  | 1 | 4 | 15 => 1
  | 2 | 6 | 20 => 2
  | 7 => 3
  | _ => 0

theorem Pattern.ranked_marker : marker.program.Ranked markerRank where
  below number := by
    unfold markerRank
    split <;> decide
  falls number instr here next hnext := by
    have hall : ∀ number < marker.program.code.size, ∀ instr ∈ marker.program.code[number]?,
        ∀ next ∈ instr.skips, markerRank next < markerRank number := by
      decide
    exact hall number (Array.getElem?_eq_some_iff.1 here).1 instr here next hnext

-----------------------------------------------------------------------------------------
-- What the program leads to
-----------------------------------------------------------------------------------------

/-- What is found where a name may start: the end of the match, and the marks of the name. -/
def Pattern.nameAt? (text : List Char) (offset : Nat) : Option (Nat × Marks) :=
  let length := runLength isNameChar text offset
  if length = 0 then none
  else some (offset + length, [(3, offset + length), (2, offset)])

section Leads

variable {text : List Char} {offset : Nat}

/-- The loop of a name goes on to the end of its run, by induction on the run. -/
theorem Pattern.leads_name (text : List Char) (offset : Nat) (marks : Marks)
    : marker.program.Leads text 2 offset marks
        (some (offset + runLength isNameChar text offset,
          (3, offset + runLength isNameChar text offset) :: marks)) := by
  have hstop (offset : Nat)
      : marker.program.Leads text 1 offset marks (some (offset, (3, offset) :: marks)) :=
    .of_mark rfl (.of_accept rfl)
  induction offset using run_induction isNameChar text with
  | stop offset hnot =>
      have hround : marker.program.Leads text 3 offset marks none :=
        .of_not_consume rfl (contains_nameChars ▸ hnot)
      rw [runLength_eq_zero_iff.2 hnot, Nat.add_zero]
      exact .of_choose rfl hround (hstop offset)
  | step offset hany ih =>
      have hround : marker.program.Leads text 3 offset marks _ :=
        .of_consume rfl (contains_nameChars ▸ hany) ih
      rw [Nat.add_right_comm, Nat.add_assoc, ← runLength_succ hany] at hround
      exact .of_choose rfl hround (hstop offset)

theorem Pattern.leads_nameAt? (text : List Char) (offset : Nat)
    : marker.program.Leads text 4 offset [] (nameAt? text offset) := by
  refine .of_mark rfl ?_
  rw [nameAt?]
  cases hany : text[offset]?.any isNameChar with
  | false =>
      rw [if_pos (runLength_eq_zero_iff.2 hany)]
      exact .of_not_consume rfl (contains_nameChars ▸ hany)
  | true =>
      have hrest := leads_name text (offset + 1) [(2, offset)]
      rw [Nat.add_right_comm, Nat.add_assoc, ← runLength_succ hany] at hrest
      rw [if_neg (by rw [runLength_succ hany]; exact Nat.succ_ne_zero _)]
      exact .of_consume rfl (contains_nameChars ▸ hany) hrest

/-- Behind one number sign, or right here if there is none, a name may start. -/
theorem Pattern.leads_sign (text : List Char) (offset : Nat)
    : marker.program.Leads text 6 offset []
        (nameAt? text (if text[offset]? = some '#' then offset + 1 else offset)) := by
  by_cases hsign : text[offset]? = some '#'
  · have hnone : nameAt? text offset = none := by
      rw [nameAt?, if_pos (runLength_eq_zero_iff.2 (by rw [hsign]; rfl))]
    have hfirst : marker.program.Leads text 5 offset [] (nameAt? text (offset + 1)) :=
      .of_consume rfl (by rw [hsign]; rfl) (leads_nameAt? text (offset + 1))
    have hchoice : marker.program.Leads text 6 offset [] _ :=
      .of_choose rfl hfirst (leads_nameAt? text offset)
    rw [hnone, Option.or_none] at hchoice
    rwa [if_pos hsign]
  · have hfirst : marker.program.Leads text 5 offset [] none := by
      refine .of_not_consume rfl ((Option.any_eq_false _ _).2 fun c hc => ?_)
      rw [contains_singleton]
      exact beq_false_of_ne fun heq => hsign (heq ▸ hc)
    rw [if_neg hsign]
    exact .of_choose rfl hfirst (leads_nameAt? text offset)

/-- At a blank no name starts. -/
theorem Pattern.leads_sign_of_blank (h : text[offset]?.any isBlank = true)
    : marker.program.Leads text 6 offset [] none := by
  obtain ⟨c, hc, hblank⟩ := (Option.any_eq_true _ _).1 h
  have hsign : text[offset]? ≠ some '#' := by
    rintro heq
    obtain rfl := Option.some.inj (hc.symm.trans heq)
    exact absurd hblank (by decide)
  have hleads := leads_sign text offset
  rwa [if_neg hsign, nameAt?, if_pos] at hleads
  rw [runLength_eq_zero_iff, hc]
  exact isNameChar_of_isBlank hblank

/-- Blanks are passed to their end, by induction on their run. -/
theorem Pattern.leads_blanks (text : List Char) (offset : Nat)
    : marker.program.Leads text 7 offset [] (nameAt? text (nameStartFrom text offset)) := by
  induction offset using run_induction isBlank text with
  | stop offset hnot =>
      have hround : marker.program.Leads text 8 offset [] none :=
        .of_not_consume rfl (contains_blanks ▸ hnot)
      rw [nameStartFrom_of_not_blank hnot]
      exact .of_choose rfl hround (leads_sign text offset)
  | step offset hany ih =>
      have hround : marker.program.Leads text 8 offset []
          (nameAt? text (nameStartFrom text (offset + 1))) :=
        .of_consume rfl (contains_blanks ▸ hany) ih
      have hchoice : marker.program.Leads text 7 offset [] _ :=
        .of_choose rfl hround (leads_sign_of_blank hany)
      rwa [Option.or_none, ← nameStartFrom_succ hany] at hchoice

/-- A program spells a word from an instruction to another one if it consumes its letters, whatever
their case.
-/
def Pattern.Program.Spells (program : Program) (next : Nat) : List Char → Nat → Prop
  | [], number => number = next
  | small :: word, number =>
      ∃ chars following,
        program.code[number]? = some (.consume chars following)
        ∧ (chars.contains = fun c => c.toLower == small)
        ∧ program.Spells next word following

/-- A word that is spelled leads to what follows it if the text begins with it, by induction on the
word.
-/
theorem Pattern.Program.Leads.of_spells {program : Program} {word : List Char}
    {number next : Nat} {found : Option (Nat × Marks)} (h : program.Spells next word number)
    (rest : program.Leads text next (offset + word.length) [] found)
    : program.Leads text number offset []
        (if beginsWith word (text.drop offset) then found else none) := by
  induction word generalizing number offset with
  | nil =>
      obtain rfl : number = next := h
      exact rest
  | cons small word ih =>
      obtain ⟨chars, following, here, hchars, hword⟩ := h
      rw [List.length_cons, Nat.add_comm word.length, ← Nat.add_assoc] at rest
      have hrest := ih hword rest
      rw [beginsWith_cons_drop, ← hchars]
      cases hany : text[offset]?.any chars.contains with
      | true => exact .of_consume here hany hrest
      | false => exact .of_not_consume here hany

/-- The end of a marker and the marks of its name. -/
def Inference.Marker.ending (marker : Marker) : Nat × Marks :=
  (marker.stop, [(3, marker.stop), (2, marker.nameStart)])

theorem Inference.map_ending_markerAt? (text : List Char) (offset : Nat)
    : (markerAt? text offset).map Marker.ending
      = (markerWords.find? fun word => beginsWith word (text.drop offset)).bind fun word =>
          Pattern.nameAt? text (nameStartFrom text (offset + word.length)) := by
  rw [markerAt?]
  cases markerWords.find? fun word => beginsWith word (text.drop offset) with
  | none => rfl
  | some word =>
      dsimp only [Option.bind_eq_bind, Option.bind_some]
      rw [Pattern.nameAt?]
      have hlength : runLength isNameChar text (nameStartFrom text (offset + word.length)) = 0
          ↔ (text.drop (nameStartFrom text (offset + word.length))).takeWhile isNameChar = [] :=
        List.length_eq_zero_iff
      by_cases hname : (text.drop (nameStartFrom text (offset + word.length))).takeWhile isNameChar
          = []
      · rw [if_pos (List.isEmpty_iff.2 hname), if_pos (hlength.2 hname)]
        rfl
      · rw [if_neg (mt List.isEmpty_iff.1 hname), if_neg (mt hlength.1 hname)]
        rfl

theorem Pattern.spells_goto : marker.program.Spells 7 ['g', 'o', 't', 'o'] 19 :=
  ⟨_, 18, rfl, contains_bothCases rfl, _, 17, rfl, contains_bothCases rfl,
    _, 16, rfl, contains_bothCases rfl, _, 7, rfl, contains_bothCases rfl, rfl⟩

theorem Pattern.spells_jump : marker.program.Spells 7 ['j', 'u', 'm', 'p'] 14 :=
  ⟨_, 13, rfl, contains_bothCases rfl, _, 12, rfl, contains_bothCases rfl,
    _, 11, rfl, contains_bothCases rfl, _, 7, rfl, contains_bothCases rfl, rfl⟩

theorem Pattern.spells_arrow : marker.program.Spells 7 ['-', '>'] 10 :=
  ⟨_, 9, rfl, contains_singleton_of_not_isAlpha rfl,
    _, 7, rfl, contains_singleton_of_not_isAlpha rfl, rfl⟩

/-- The program leads from its start to the marker at the offset: the words begin with different
letters, so at most one of its ways fits.
-/
theorem Pattern.leads_start (text : List Char) (offset : Nat)
    : marker.program.Leads text 20 offset []
        ((markerAt? text offset).map Marker.ending) := by
  have hgoto := Program.Leads.of_spells spells_goto (leads_blanks text (offset + 4))
  have hjump := Program.Leads.of_spells spells_jump (leads_blanks text (offset + 4))
  have harrow := Program.Leads.of_spells spells_arrow (leads_blanks text (offset + 2))
  have hothers : marker.program.Leads text 15 offset [] _ := .of_choose rfl hjump harrow
  have hchoice : marker.program.Leads text 20 offset [] _ := .of_choose rfl hgoto hothers
  rw [map_ending_markerAt?]
  simp only [markerWords, List.find?_cons, List.find?_nil]
  cases hg : beginsWith ['g', 'o', 't', 'o'] (text.drop offset) with
  | true =>
      have hj : beginsWith ['j', 'u', 'm', 'p'] (text.drop offset) = false :=
        not_beginsWith_of_ne hg (by decide)
      have ha : beginsWith ['-', '>'] (text.drop offset) = false :=
        not_beginsWith_of_ne hg (by decide)
      simpa [hg, hj, ha] using hchoice
  | false =>
      cases hj : beginsWith ['j', 'u', 'm', 'p'] (text.drop offset) with
      | true =>
          have ha : beginsWith ['-', '>'] (text.drop offset) = false :=
            not_beginsWith_of_ne hj (by decide)
          simpa [hg, hj, ha] using hchoice
      | false =>
          cases ha : beginsWith ['-', '>'] (text.drop offset) <;>
            simpa [hg, hj, ha] using hchoice

end Leads

-----------------------------------------------------------------------------------------
-- The matches of the pattern
-----------------------------------------------------------------------------------------

/-- The match of a marker. -/
def Inference.Marker.toMatch (text : List Char) (marker : Marker) : Match :=
  ⟨placeAt text marker.start, placeAt text marker.stop, marker.ending.2⟩

/-- From an offset on the program first finds the first marker of a scan, by induction on it. -/
theorem Pattern.seeks_markersFrom (text : List Char) (offset : Nat)
    : marker.program.Seeks text offset
        ((markersFrom text offset).head?.map (Marker.toMatch text)) := by
  fun_induction markersFrom text offset with
  | case1 offset hlt hnone ih =>
      have hleads := leads_start text offset
      rw [hnone] at hleads
      exact .on hleads hlt ih
  | case2 offset hlt first hfirst ih =>
      have hleads := leads_start text offset
      rw [hfirst] at hleads
      obtain rfl := (le_nameStart_of_markerAt? hfirst).1
      exact .here hleads
  | case3 offset hge =>
      have hleads := leads_start text offset
      rw [markerAt?_of_length_le (Nat.le_of_not_lt hge)] at hleads
      exact .done hleads (Nat.le_of_not_lt hge)

theorem Pattern.search_marker (text : List Char) (offset : Nat)
    : marker.program.search (marker.program.wayBound text.length) (placeAt text offset)
      = (markersFrom text offset).head?.map (Marker.toMatch text) :=
  (seeks_markersFrom text offset).search ranked_marker

/-- The matches of the pattern are the markers of a scan, by induction on the bound for their
number.
-/
theorem Pattern.matchesFrom_marker (text : List Char) (count offset : Nat) (previous : Option Nat)
    (hcount : text.length - offset < count)
    : marker.program.matchesFrom (marker.program.wayBound text.length) count (placeAt text offset)
          previous
      = (markersFrom text offset).map (Marker.toMatch text) := by
  induction count generalizing offset previous with
  | zero => cases hcount
  | succ count ih =>
      have hsearch := search_marker text offset
      rw [Program.matchesFrom, Program.searchAfter, hsearch]
      cases hmarkers : markersFrom text offset with
      | nil => rfl
      | cons first rest =>
          obtain ⟨rfl, hlt⟩ := markersFrom_eq_cons hmarkers
          obtain ⟨hmarker, hle⟩ := markerAt?_of_mem_markersFrom (hmarkers ▸ List.mem_cons_self)
          have hstop := lt_stop_of_markerAt? hmarker
          have hlength : (first.toMatch text).length ≠ 0 := Nat.sub_ne_zero_of_lt hstop
          dsimp only [List.head?_cons, Option.map_some]
          rw [if_neg fun hempty => hlength hempty.1]
          exact congrArg _ (ih first.stop _ (by omega))

theorem Pattern.allMatches_marker (text : List Char)
    : marker.allMatches text = (markersOf text).map (Marker.toMatch text) :=
  matchesFrom_marker text (text.length + 1) 0 none (by omega)

/-- The group of a match is the name of its marker. -/
theorem Inference.group?_toMatch {text : List Char} {marker : Marker}
    (h : markerAt? text marker.start = some marker)
    : (marker.toMatch text).group? 1 = some marker.name := by
  have hgroup : (marker.toMatch text).group? 1
      = some (((text.drop marker.start).drop (marker.nameStart - marker.start)).take
          (marker.stop - marker.nameStart)) :=
    rfl
  rw [hgroup, List.drop_drop, Nat.add_sub_cancel' (le_nameStart_of_markerAt? h).2, Marker.stop,
    Nat.add_sub_cancel_left, (name_of_markerAt? h).2.2.1]

theorem Pattern.groupPieces_marker (text : List Char)
    : marker.groupPieces 1 text = (markersOf text).map Marker.name := by
  rw [groupPieces, allMatches_marker, List.filterMap_map, ← List.filterMap_eq_map]
  exact List.filterMap_congr fun found hfound =>
    group?_toMatch (markerAt?_of_mem_markersFrom hfound).1

/-- With the pattern of the conventions the text of an element leads to the names of the markers
that a scan finds there.  The matches are these markers and do not overlap, and a name is not
empty and reaches as far as its characters do.
-/
theorem Inference.detect_inlineMarker_default
    : ({} : Conventions).pattern = .ok .marker
      ∧ (∀ (context : Context) (node : Node),
          (Detector.inlineMarker .marker).detect context node
            = (context.element? node).toList.flatMap fun element =>
                (markersOf element.text.toList).map fun marker =>
                  ⟨node.id, ⟨String.ofList marker.name⟩, .inlineMarker⟩)
      ∧ ∀ text : List Char,
          ((Pattern.marker.allMatches text).map fun found =>
              (found.start.offset, found.stop.offset))
            = ((markersOf text).map fun marker => (marker.start, marker.stop))
          ∧ ((Pattern.marker.allMatches text).Pairwise fun first second =>
              first.stop.offset ≤ second.start.offset)
          ∧ ∀ marker ∈ markersOf text,
              marker.name ≠ []
              ∧ marker.name.all isNameChar = true
              ∧ (text.drop marker.nameStart).take marker.name.length = marker.name
              ∧ text[marker.stop]?.any isNameChar = false := by
  refine ⟨Conventions.pattern_default, fun context node => ?_, fun text => ⟨?_, ?_, ?_⟩⟩
  · rw [Detector.detect, inlineEdges]
    cases context.element? node with
    | none => rfl
    | some element => simp [Pattern.groupPieces_marker]
  · rw [Pattern.allMatches_marker, List.map_map]
    rfl
  · rw [Pattern.allMatches_marker, List.pairwise_map]
    exact pairwise_markersFrom text 0
  · intro marker hmarker
    exact name_of_markerAt? (markerAt?_of_mem_markersFrom hmarker).1

/-- Behind a word an arrow is no word of its own: its line is the name, and its head ends it. -/
theorem Inference.detect_inlineMarker_default_of_arrow_behind_word
    : markersOf ['g', 'o', 't', 'o', ' ', '-', '>', 'x'] = [⟨0, 5, ['-']⟩]
      ∧ ((Pattern.marker.allMatches ['g', 'o', 't', 'o', ' ', '-', '>', 'x']).map fun found =>
          (found.start.offset, found.stop.offset))
        = [(0, 6)]
      ∧ ['-'] ≠ []
      ∧ ['g', 'o', 't', 'o', ' ', '-', '>', 'x'][6]?.any isNameChar = false := by
  have hmarkers : markersOf ['g', 'o', 't', 'o', ' ', '-', '>', 'x'] = [⟨0, 5, ['-']⟩] := by
    decide +kernel
  obtain ⟨hspans, -, hnames⟩ :=
    detect_inlineMarker_default.2.2 ['g', 'o', 't', 'o', ' ', '-', '>', 'x']
  obtain ⟨hne, -, -, hends⟩ := hnames ⟨0, 5, ['-']⟩ (hmarkers ▸ List.mem_cons_self)
  exact ⟨hmarkers, by rw [hspans, hmarkers]; rfl, hne, hends⟩

end StoryAtlas
