import StoryAtlas.Proofs.Render.EmbeddedData
import StoryAtlas.Proofs.Render.ScriptData

/-! The tags of a written page.
The title and the address of the script cannot end the places they stand in.  The embedded data
cannot end its script, but it can keep the script from ending: with a comment and a script tag in
it that are left open, the end tag of the script is part of the script.
-/

namespace StoryAtlas.Render.Html

open StoryAtlas.Text

-----------------------------------------------------------------------------------------
-- Up to the embedded data
-----------------------------------------------------------------------------------------

/-- A character of markup is written as itself, or else by a named reference. -/
theorem markupChar_cases (c : Char)
    : markupChar c = [c] ∧ c ≠ '<' ∧ c ≠ '"' ∨ markupChar c ⊆ "&ampltgquos;".toList := by
  by_cases hspecial : c ∈ ['<', '>', '&', '\'', '"']
  · simp only [List.mem_cons, List.not_mem_nil, or_false] at hspecial
    rcases hspecial with rfl | rfl | rfl | rfl | rfl <;> exact Or.inr (by decide)
  · simp only [List.mem_cons, List.not_mem_nil, or_false, not_or] at hspecial
    exact Or.inl (by simp [markupChar, hspecial])

/-- No character of escaped markup begins a tag or ends a value. -/
theorem ne_of_mem_escapeMarkup {chars : List Char} {c : Char} (h : c ∈ escapeMarkup chars)
    : c ≠ '<' ∧ c ≠ '"' := by
  obtain ⟨d, -, hwritten⟩ := List.mem_flatMap.1 h
  rcases markupChar_cases d with ⟨hself, hplain⟩ | hreference
  · rw [hself, List.mem_singleton] at hwritten
    rw [hwritten]
    exact hplain
  · have hmem := hreference hwritten
    constructor <;> rintro rfl <;> exact absurd hmem (by decide)

/-- The tokenizer in front of the title. -/
def atTitle : Tokenizer :=
  Tokenizer.run {} pageStart

/-- The tokenizer in front of the address of the script. -/
def atAddress : Tokenizer :=
  atTitle.run pageScript

/-- The tokenizer in front of the embedded data. -/
def atData : Tokenizer :=
  atAddress.run pageBody

/-- Behind the start tag of the title only its end tag is looked for. -/
theorem state_atTitle : atTitle.state = .text .rcdata := by
  decide +kernel

/-- The address of the script is a value in quotes. -/
theorem state_atAddress : ∃ tag : Tag, atAddress.state = .quotedValue '"' tag := by
  refine ⟨⟨false, "script".toList, ["type".toList, "src".toList], false⟩, ?_⟩
  decide +kernel

/-- The embedded data stands in a script. -/
theorem atData_reads : atData.state = .text .script ∧ atData.last = "script".toList := by
  decide +kernel

/-- A title is text without an end tag. -/
theorem run_title (title : List Char) : atTitle.run (escapeMarkup title) = atTitle := by
  refine Tokenizer.run_eq_self fun c hc => ?_
  rw [state_atTitle]
  simp [next, textNext, (ne_of_mem_escapeMarkup hc).1]

/-- An address is a value without a quote. -/
theorem run_address (address : List Char) : atAddress.run (escapeMarkup address) = atAddress := by
  refine Tokenizer.run_eq_self fun c hc => ?_
  obtain ⟨tag, hstate⟩ := state_atAddress
  rw [hstate]
  simp [next, (ne_of_mem_escapeMarkup hc).2]

-----------------------------------------------------------------------------------------
-- Behind the embedded data
-----------------------------------------------------------------------------------------

/-- The script of a page up to the end of the embedded data. -/
def scriptData (display : Display) (graph : Graph) : List Char :=
  nodesText display graph ++ pageEdges ++ edgesText graph

/-- What comes behind another character than a slash is kept, by induction on the replacement. -/
theorem scriptSafe_concat {c : Char} (h : c ≠ '/') (chars : List Char)
    : scriptSafe (chars ++ [c]) = scriptSafe chars ++ [c] := by
  unfold scriptSafe
  fun_induction replacePair '<' '/' ['<', '\\', '/'] chars with
  | case1 a b chars hpair ih =>
      rw [List.cons_append, List.cons_append, replacePair, if_pos hpair, ih, List.append_assoc]
  | case2 a b chars hpair ih =>
      rw [List.cons_append, List.cons_append, replacePair, if_neg hpair, ← List.cons_append, ih,
        List.cons_append]
  | case3 chars hother =>
      cases chars with
      | nil => rfl
      | cons a rest =>
          cases rest with
          | nil => simp [replacePair, h]
          | cons b rest => exact absurd rfl (hother a b rest)

/-- The nodes and the edges are separated. -/
theorem scriptData_eq (display : Display) (graph : Graph)
    : scriptData display graph
      = nodesText display graph
        ++ ';' :: ("\nconst edges =".toList ++ ' ' :: edgesText graph) := by
  rw [scriptData, List.append_assoc]
  rfl

/-- The embedded data holds no `</`, since the parts of the page between have no `<`. -/
theorem not_infix_scriptData (display : Display) (graph : Graph)
    : ¬ ['<', '/'] <:+: scriptData display graph := by
  rw [scriptData_eq]
  intro hinner
  rcases isInfix_of_separator (by decide) hinner with hnodes | hbehind
  · exact not_infix_scriptSafe _ hnodes
  · rcases isInfix_of_separator (by decide) hbehind with hbetween | hedges
    · exact absurd hbetween (by decide)
    · exact not_infix_scriptSafe _ hedges

/-- The embedded data ends with the bracket that closes the edges. -/
theorem exists_scriptData_eq (display : Display) (graph : Graph)
    : ∃ front, scriptData display graph = front ++ [']'] := by
  refine ⟨nodesText display graph ++ pageEdges ++ scriptSafe
    ('[' :: List.intercalate [','] ((graph.edges.map edgeFields).map jsonRecord)), ?_⟩
  rw [scriptData, edgesText, jsonRecords, ← List.cons_append, scriptSafe_concat (by decide),
    ← List.append_assoc]

/-- The embedded data ends no tag, and leads to the region of script data that its text says. -/
theorem run_scriptData_atData (display : Display) (graph : Graph)
    : ∃ region : Region,
        atData.run (scriptData display graph) = { atData with state := .text region }
          ∧ region.Holds (scriptData display graph) := by
  obtain ⟨state, hrun, hholds⟩ :=
    run_scriptData atData_reads.1 (not_infix_scriptData display graph)
  obtain ⟨front, hfront⟩ := exists_scriptData_eq display graph
  rw [hfront] at hholds
  obtain ⟨region, rfl, hregion⟩ := hholds.bracket
  rw [← hfront] at hregion
  exact ⟨region, hrun, hregion⟩

/-- Script data is read in one of three ways. -/
theorem Region.Holds.mem {region : Region} {chars : List Char} (h : region.Holds chars)
    : region ∈ [Region.script, .escaped, .doubleEscaped] := by
  cases region with
  | script | escaped | doubleEscaped => decide
  | data | rcdata | rawtext | plaintext => exact h.elim

/-- The tags behind the embedded data. -/
def closingTags : List Tag :=
  ["script", "body", "html"].map fun name => { closing := true, name := name.toList }

/-- What is behind the embedded data ends the script, unless the script is doubly escaped. -/
theorem tags_pageEnd
    : ∀ region ∈ [Region.script, .escaped, .doubleEscaped],
      (Tokenizer.run ⟨[], "script".toList, .text region⟩ pageEnd).tags
        = if region = .doubleEscaped then [] else closingTags := by
  decide +kernel

-----------------------------------------------------------------------------------------
-- Pages
-----------------------------------------------------------------------------------------

/-- The tags of a page are those in front of its embedded data and those behind. -/
theorem exists_tags_render_eq (settings : RenderSettings) (graph : Graph)
    : ∃ region : Region,
        region.Holds (scriptData settings.display graph)
          ∧ tags (render settings graph)
            = atData.tags ++ if region = .doubleEscaped then [] else closingTags := by
  obtain ⟨region, hdata, hregion⟩ := run_scriptData_atData settings.display graph
  refine ⟨region, hregion, ?_⟩
  have hpage : (render settings graph).toList
      = pageStart ++ escapeMarkup settings.pageTitle.toList ++ pageScript
        ++ escapeMarkup settings.scriptUrl.toList ++ pageBody
        ++ scriptData settings.display graph ++ pageEnd := by
    rw [toList_render, scriptData]
    simp only [List.append_assoc]
  have hrun : Tokenizer.run {} (render settings graph).toList
      = Tokenizer.run { atData with state := .text region } pageEnd := by
    simp only [hpage, Tokenizer.run_append]
    rw [← atTitle, run_title, ← atAddress, run_address, ← atData, hdata]
  have hbefore : ({ atData with state := .text region } : Tokenizer)
      = Tokenizer.after atData.tags ⟨[], "script".toList, .text region⟩ := by
    rw [← atData_reads.2, Tokenizer.after, List.append_nil]
  rw [tags, hrun, hbefore, Tokenizer.run_after, Tokenizer.after, tags_pageEnd region hregion.mem]

/-- Doubly escaped is the script data that leaves a script tag open in a comment. -/
theorem Region.Holds.leavesScript_iff {region : Region} {chars : List Char}
    (h : region.Holds chars)
    : LeavesScript chars ↔ region = .doubleEscaped := by
  cases region with
  | script => exact ⟨fun hscript => absurd hscript.commented h, fun heq => nomatch heq⟩
  | escaped => exact ⟨fun hscript => absurd hscript h.2, fun heq => nomatch heq⟩
  | doubleEscaped => exact ⟨fun _ => rfl, fun _ => h⟩
  | data | rcdata | rawtext | plaintext => exact h.elim

variable {settings : RenderSettings} {graph : Graph}

/-- The tags of a page, unless its embedded data leaves a script tag open in a comment. -/
theorem tags_render (h : ¬ LeavesScript (scriptData settings.display graph))
    : tags (render settings graph) = atData.tags ++ closingTags := by
  obtain ⟨region, hregion, htags⟩ := exists_tags_render_eq settings graph
  rw [hregion.leavesScript_iff] at h
  rw [htags, if_neg h]

/-- Without its end the script of a page goes on to the end of the page. -/
theorem tags_render_of_leavesScript (h : LeavesScript (scriptData settings.display graph))
    : tags (render settings graph) = atData.tags := by
  obtain ⟨region, hregion, htags⟩ := exists_tags_render_eq settings graph
  rw [hregion.leavesScript_iff] at h
  rw [htags, if_pos h, List.append_nil]

/-- The graph without nodes and edges. -/
def emptyGraph : Graph :=
  ⟨.empty, [], false⟩

/-- Nothing begins in the data of the empty graph, which has no `<`. -/
theorem not_leavesScript_emptyGraph (display : Display)
    : ¬ LeavesScript (scriptData display emptyGraph) := by
  intro hscript
  obtain ⟨inside, ⟨before, hdata⟩, -⟩ := hscript.commented
  have hless : '<' ∈ scriptData display emptyGraph := by
    rw [hdata]
    simp
  revert hless
  cases display <;> decide

/-- The page of the empty graph has the tags behind its embedded data. -/
theorem tags_render_emptyGraph : tags (render {} emptyGraph) = atData.tags ++ closingTags :=
  tags_render (not_leavesScript_emptyGraph _)

/-- A page has the tags of the page of the empty graph, whatever else it is made from, unless its
embedded data leaves a comment open in which a script tag begins.
-/
theorem tags_render_eq_iff (settings : RenderSettings) (graph : Graph)
    : tags (render settings graph) = tags (render {} emptyGraph)
      ↔ ¬ LeavesScript (scriptData settings.display graph) := by
  rw [tags_render_emptyGraph]
  constructor
  · intro hsame hscript
    rw [tags_render_of_leavesScript hscript, List.self_eq_append_right] at hsame
    exact absurd hsame (by decide)
  · exact tags_render

/-- The graph of one node whose identifier begins a comment and a script tag. -/
def scriptGraph : Graph :=
  ⟨Registry.empty.register ⟨"<!--<script>"⟩ "x" "s" 1, [], false⟩

/-- The script of its page does not end. -/
theorem tags_render_scriptGraph_ne
    : tags (render {} scriptGraph) ≠ tags (render {} emptyGraph) := by
  let chars := scriptData .id scriptGraph
  have hcomment : LeavesComment chars (chars.drop 12) :=
    ⟨⟨chars.take 8, by decide⟩, by decide +kernel⟩
  have hopens : OpensScript (chars.drop 12) :=
    ⟨[], "script".toList, '>', chars.drop 20, by decide, by decide, by decide⟩
  rw [tags_render_emptyGraph, tags_render_of_leavesScript ⟨_, hcomment, hopens⟩]
  intro hsame
  exact absurd (List.self_eq_append_right.1 hsame) (by decide)

end StoryAtlas.Render.Html
