import StoryAtlas.Proofs.Markup.References
import StoryAtlas.Proofs.Render.Json
import StoryAtlas.Render.Html

/-! The data embedded in a page.
The nodes and edges are written as JSON, and a backslash is put into every `</`.  Such a pair can
stand in strings only, where a slash means the same with a backslash in front, so the data is
read as it was meant.
-/

namespace StoryAtlas.Render.Html

open StoryAtlas.Text StoryAtlas.Markup StoryAtlas.Render.Json

-----------------------------------------------------------------------------------------
-- Written records
-----------------------------------------------------------------------------------------

/-- The part of a string that a character is written as. -/
def partOf (c : Char) : Part :=
  if c.toNat < 0x20 ∧ c ∉ ['\x08', '\x0C', '\n', '\r', '\t'] then .unit c.toNat else .char c

theorem digitValue?_hexDigit (value : Fin 16)
    : digitValue? 16 (hexDigit value) = some value.val := by
  revert value
  decide

/-- A control is read from its number, whose first two digits are zero. -/
theorem lexFrom_control (parts : List Part) {code : Nat} (h : code < 0x20)
    : lexFrom step (.inString parts)
          ['\\', 'u', '0', '0', hexDigit (code / 16), hexDigit (code % 16)]
      = some ([], .inString (parts ++ [.unit code])) := by
  have hhigh := digitValue?_hexDigit ⟨code / 16, by omega⟩
  have hlow := digitValue?_hexDigit ⟨code % 16, by omega⟩
  have hzero : digitValue? 16 '0' = some 0 := rfl
  have hcode : code / 16 * 16 + code % 16 = code := by omega
  simp [lexFrom, step, hhigh, hlow, hzero, hcode]

/-- A written character is read as itself. -/
theorem lexFrom_jsonChar (parts : List Part) (c : Char)
    : lexFrom step (.inString parts) (jsonChar c)
      = some ([], .inString (parts ++ [partOf c])) := by
  by_cases hescaped : c ∈ ['"', '\\', '\x08', '\x0C', '\n', '\r', '\t']
  · simp only [List.mem_cons, List.not_mem_nil, or_false] at hescaped
    rcases hescaped with rfl | rfl | rfl | rfl | rfl | rfl | rfl <;> rfl
  · simp only [List.mem_cons, List.not_mem_nil, or_false, not_or] at hescaped
    obtain ⟨hquote, hbackslash, hb, hf, hn, hr, ht⟩ := hescaped
    by_cases hcontrol : c.toNat < 0x20
    · have hread := lexFrom_control parts hcontrol
      simpa [jsonChar, partOf, hquote, hbackslash, hb, hf, hn, hr, ht, hcontrol] using hread
    · simp [jsonChar, partOf, lexFrom, step, hquote, hbackslash, hb, hf, hn, hr, ht, hcontrol]

/-- The parts that characters are written as make these characters, by induction on them.  No
control is a surrogate.
-/
theorem joinParts_partOf (chars : List Char) : joinParts (chars.map partOf) = some chars := by
  induction chars with
  | nil => rfl
  | cons c chars ih =>
      rw [List.map_cons, partOf]
      split
      · next hcontrol =>
          have hlow : ¬ (0xD800 ≤ c.toNat ∧ c.toNat < 0xDC00) := by omega
          unfold joinParts
          rw [if_neg hlow, Manuscript.charOfNumber?_toNat, Option.bind_some, ih,
            Option.map_some]
      · rw [joinParts, ih, Option.map_some]

/-- The inside of a written string is read as its characters, by induction on these. -/
theorem lexFrom_jsonChars (parts : List Part) (chars : List Char)
    : lexFrom step (.inString parts) (chars.flatMap jsonChar)
      = some ([], .inString (parts ++ chars.map partOf)) := by
  induction chars generalizing parts with
  | nil => simp [lexFrom]
  | cons c chars ih =>
      have hrest := ih (parts ++ [partOf c])
      rw [List.append_assoc] at hrest
      exact lexFrom_append (lexFrom_jsonChar parts c) hrest

theorem lexFrom_jsonString (text : String)
    : lexFrom step (.outside []) (jsonString text) = some ([.string text.toList], .outside []) := by
  have hopen : step (.outside []) '"' = some ([], .inString []) := rfl
  have hclose : lexFrom step (.inString (text.toList.map partOf)) ['"']
      = some ([.string text.toList], .outside []) := by
    simp [lexFrom, step, joinParts_partOf]
  exact lexFrom_cons hopen (lexFrom_append (lexFrom_jsonChars [] text.toList) hclose)

theorem lexFrom_field (field : String × String)
    : lexFrom step (.outside []) (jsonString field.1 ++ ':' :: jsonString field.2)
      = some (fieldTokens field, .outside []) := by
  have hcolon : step (.outside []) ':' = some ([.colon], .outside []) := rfl
  exact lexFrom_append (lexFrom_jsonString field.1)
    (lexFrom_cons hcolon (lexFrom_jsonString field.2))

/-- The tokens of a record of strings. -/
def recordTokens (fields : List (String × String)) : List Json.Token :=
  .openBrace :: ([.comma].intercalate (fields.map fieldTokens) ++ [.closeBrace])

theorem lexFrom_jsonRecord (fields : List (String × String))
    : lexFrom step (.outside []) (jsonRecord fields) = some (recordTokens fields, .outside []) := by
  have hopen : step (.outside []) '\x7b' = some ([.openBrace], .outside []) := rfl
  have hcomma : lexFrom step (.outside []) [','] = some ([.comma], .outside []) := rfl
  have hclose : lexFrom step (.outside []) ['\x7d'] = some ([.closeBrace], .outside []) := rfl
  exact lexFrom_cons hopen (lexFrom_append (lexFrom_intercalate hcomma lexFrom_field fields) hclose)

/-- Written records are read as the list of these records. -/
theorem parse_jsonRecords (records : List (List (String × String)))
    : Json.parse (jsonRecords records)
      = some (.array (records.map fun fields => .object (fields.map fieldValue))) := by
  have hopen : step (.outside []) '[' = some ([.openBracket], .outside []) := rfl
  have hcomma : lexFrom step (.outside []) [','] = some ([.comma], .outside []) := rfl
  have hclose : lexFrom step (.outside []) [']'] = some ([.closeBracket], .outside []) := rfl
  exact parse_of_reads
    (lexFrom_cons hopen
      (lexFrom_append (lexFrom_intercalate hcomma lexFrom_jsonRecord records) hclose))
    (reads_array reads_object records)

-----------------------------------------------------------------------------------------
-- Slashes
-----------------------------------------------------------------------------------------

/-- A slash behind a `<` means the same with a backslash in front, wherever the pair stands.
Outside of strings neither is read.
-/
theorem lexFrom_slash (place : Place) (rest : List Char)
    : lexFrom step place ('<' :: '\\' :: '/' :: rest) = lexFrom step place ('<' :: '/' :: rest) := by
  cases place with
  | outside word => rfl
  | inString parts =>
      have hless : step (.inString parts) '<' = some ([], .inString (parts ++ [.char '<'])) := rfl
      have hplain (parts : List Part)
          : step (.inString parts) '/' = some ([], .inString (parts ++ [.char '/'])) := rfl
      have hbackslash (parts : List Part)
          : step (.inString parts) '\\' = some ([], .backslash parts) := rfl
      have hescaped (parts : List Part)
          : step (.backslash parts) '/' = some ([], .inString (parts ++ [.char '/'])) := rfl
      simp [lexFrom, hless, hplain, hbackslash, hescaped, Function.comp_def]
  | backslash parts => rfl
  | inUnit parts count value => rfl

/-- Texts that are read alike from every place are read alike behind any character. -/
theorem lexFrom_cons_congr {left right : List Char}
    (h : ∀ place, lexFrom step place left = lexFrom step place right) (place : Place) (c : Char)
    : lexFrom step place (c :: left) = lexFrom step place (c :: right) := by
  simp only [lexFrom, h]

/-- Writing a backslash into every `</` changes nothing that is read, by induction on the steps
of the replacement.
-/
theorem lexFrom_scriptSafe (place : Place) (chars : List Char)
    : lexFrom step place (scriptSafe chars) = lexFrom step place chars := by
  unfold scriptSafe
  fun_induction replacePair '<' '/' ['<', '\\', '/'] chars generalizing place with
  | case1 a b chars h ih =>
      obtain ⟨rfl, rfl⟩ := h
      calc lexFrom step place ('<' :: '\\' :: '/' :: replacePair '<' '/' ['<', '\\', '/'] chars)
        _ = lexFrom step place ('<' :: '/' :: replacePair '<' '/' ['<', '\\', '/'] chars) :=
            lexFrom_slash place _
        _ = lexFrom step place ('<' :: '/' :: chars) :=
            lexFrom_cons_congr (fun place => lexFrom_cons_congr ih place '/') place '<'
  | case2 a b chars h ih => exact lexFrom_cons_congr ih place a
  | case3 chars h => rfl

theorem parse_scriptSafe (chars : List Char) : Json.parse (scriptSafe chars) = Json.parse chars := by
  rw [Json.parse, tokens?, lexFrom_scriptSafe]
  rfl

/-- What is replaced begins as before. -/
theorem head?_scriptSafe (chars : List Char) : (scriptSafe chars).head? = chars.head? := by
  unfold scriptSafe
  fun_induction replacePair '<' '/' ['<', '\\', '/'] chars with
  | case1 a b chars h ih => simp [h.1]
  | case2 a b chars h ih => rfl
  | case3 chars h => rfl

/-- No `</` is left, by induction on the steps of the replacement. -/
theorem not_infix_scriptSafe (chars : List Char) : ¬ ['<', '/'] <:+: scriptSafe chars := by
  unfold scriptSafe
  fun_induction replacePair '<' '/' ['<', '\\', '/'] chars with
  | case1 a b chars h ih =>
      intro hinner
      rcases List.infix_cons_iff.1 hinner with hprefix | hrest
      · simp at hprefix
      · have hnew : '<' ∉ ['\\', '/'] := by decide
        exact ih (isInfix_of_append hnew hrest)
  | case2 a b chars h ih =>
      intro hinner
      rcases List.infix_cons_iff.1 hinner with hprefix | hrest
      · obtain ⟨hless, hslash⟩ := List.cons_prefix_cons.1 hprefix
        have hhead : (scriptSafe (b :: chars)).head? = some '/' :=
          by
            obtain ⟨rest, hrest⟩ := hslash
            rw [scriptSafe, ← hrest]
            rfl
        rw [head?_scriptSafe, List.head?_cons, Option.some_inj] at hhead
        exact h ⟨hless.symm, hhead⟩
      · exact ih hrest
  | case3 chars h =>
      intro hinner
      have hlength := hinner.length_le
      cases chars with
      | nil => simp at hlength
      | cons a rest =>
          cases rest with
          | nil => simp at hlength
          | cons b rest => exact h a b rest rfl

/-- A replacement adds only what it replaces by, and the rest was there before. -/
theorem mem_scriptSafe {chars : List Char} {c : Char} (h : c ∈ scriptSafe chars)
    : c ∈ ['<', '\\', '/'] ∨ c ∈ chars := by
  unfold scriptSafe at h
  fun_induction replacePair '<' '/' ['<', '\\', '/'] chars with
  | case1 a b chars hab ih =>
      rcases List.mem_append.1 h with hnew | hrest
      · exact Or.inl hnew
      · exact (ih hrest).imp_right fun hmem => List.mem_cons_of_mem a (List.mem_cons_of_mem b hmem)
  | case2 a b chars hab ih =>
      rcases List.mem_cons.1 h with rfl | hrest
      · exact Or.inr List.mem_cons_self
      · exact (ih hrest).imp_right (List.mem_cons_of_mem a)
  | case3 chars hother => exact Or.inr h

-----------------------------------------------------------------------------------------
-- Lines
-----------------------------------------------------------------------------------------

/-- Without control characters a text is a single line. -/
def ControlFree (chars : List Char) : Prop :=
  ∀ c ∈ chars, 0x20 ≤ c.toNat

theorem controlFree_of_all {chars : List Char} (h : chars.all (0x20 ≤ ·.toNat) = true)
    : ControlFree chars :=
  fun c hc => of_decide_eq_true (List.all_eq_true.1 h c hc)

theorem ControlFree.append {left right : List Char} (hleft : ControlFree left)
    (hright : ControlFree right)
    : ControlFree (left ++ right) := by
  intro c hc
  rcases List.mem_append.1 hc with hmem | hmem
  · exact hleft c hmem
  · exact hright c hmem

theorem ControlFree.flatMap {α : Type} {written : α → List Char}
    (h : ∀ item, ControlFree (written item)) (items : List α)
    : ControlFree (items.flatMap written) := by
  intro c hc
  obtain ⟨item, -, hmem⟩ := List.mem_flatMap.1 hc
  exact h item c hmem

theorem ControlFree.intercalate {α : Type} {written : α → List Char}
    (h : ∀ item, ControlFree (written item)) (items : List α)
    : ControlFree ([','].intercalate (items.map written)) := by
  have hcomma : ControlFree [','] := controlFree_of_all (by decide)
  cases items with
  | nil => exact fun c hc => absurd hc List.not_mem_nil
  | cons item items =>
      rw [List.map_cons, intercalate_cons, List.flatMap_map]
      exact (h item).append (.flatMap (fun item => hcomma.append (h item)) items)

/-- The characters that characters are escaped by. -/
def escapeChars : List Char :=
  "\\\"bfnrtu0123456789abcdef".toList

theorem hexDigit_mem (value : Fin 16) : hexDigit value ∈ escapeChars := by
  revert value
  decide

/-- A character is written as itself if it is no control, or else it is escaped. -/
theorem jsonChar_cases (c : Char)
    : jsonChar c = [c] ∧ 0x20 ≤ c.toNat
      ∨ jsonChar c ≠ [] ∧ jsonChar c ⊆ escapeChars := by
  by_cases hescaped : c ∈ ['"', '\\', '\x08', '\x0C', '\n', '\r', '\t']
  · simp only [List.mem_cons, List.not_mem_nil, or_false] at hescaped
    rcases hescaped with rfl | rfl | rfl | rfl | rfl | rfl | rfl <;> exact Or.inr (by decide)
  · simp only [List.mem_cons, List.not_mem_nil, or_false, not_or] at hescaped
    obtain ⟨hquote, hbackslash, hb, hf, hn, hr, ht⟩ := hescaped
    by_cases hcontrol : c.toNat < 0x20
    · have hhigh := hexDigit_mem ⟨c.toNat / 16, by omega⟩
      have hlow := hexDigit_mem ⟨c.toNat % 16, by omega⟩
      simp only [jsonChar, if_neg hquote, if_neg hbackslash, if_neg hb, if_neg hf, if_neg hn,
        if_neg hr, if_neg ht, if_pos hcontrol, List.cons_subset]
      exact Or.inr ⟨by simp, by decide, by decide, by decide, by decide, hhigh, hlow, by simp⟩
    · simp only [jsonChar, if_neg hquote, if_neg hbackslash, if_neg hb, if_neg hf, if_neg hn,
        if_neg hr, if_neg ht, if_neg hcontrol]
      exact Or.inl ⟨trivial, Nat.le_of_not_lt hcontrol⟩

/-- A character is written without controls. -/
theorem controlFree_jsonChar (c : Char) : ControlFree (jsonChar c) := by
  rcases jsonChar_cases c with ⟨hself, hc⟩ | ⟨-, hescaped⟩
  · rw [hself]
    exact List.forall_mem_singleton.2 hc
  · have hprinted : ControlFree escapeChars := controlFree_of_all (by decide)
    exact fun d hd => hprinted d (hescaped hd)

theorem controlFree_jsonString (text : String) : ControlFree (jsonString text) := by
  have hquote : ControlFree ['"'] := controlFree_of_all (by decide)
  exact (hquote.append (.flatMap controlFree_jsonChar text.toList)).append hquote

theorem controlFree_jsonRecord (fields : List (String × String))
    : ControlFree (jsonRecord fields) := by
  have hopen : ControlFree ['\x7b'] := controlFree_of_all (by decide)
  have hcolon : ControlFree [':'] := controlFree_of_all (by decide)
  have hclose : ControlFree ['\x7d'] := controlFree_of_all (by decide)
  have hfield (field : String × String)
      : ControlFree (jsonString field.1 ++ ':' :: jsonString field.2) :=
    (controlFree_jsonString field.1).append (hcolon.append (controlFree_jsonString field.2))
  exact (hopen.append (.intercalate hfield fields)).append hclose

theorem controlFree_jsonRecords (records : List (List (String × String)))
    : ControlFree (jsonRecords records) := by
  have hopen : ControlFree ['['] := controlFree_of_all (by decide)
  have hclose : ControlFree [']'] := controlFree_of_all (by decide)
  exact (hopen.append (.intercalate controlFree_jsonRecord records)).append hclose

theorem ControlFree.scriptSafe {chars : List Char} (h : ControlFree chars)
    : ControlFree (scriptSafe chars) := by
  have hnew : ControlFree ['<', '\\', '/'] := controlFree_of_all (by decide)
  intro c hc
  rcases mem_scriptSafe hc with hmem | hmem
  · exact hnew c hmem
  · exact h c hmem

-----------------------------------------------------------------------------------------
-- Titles
-----------------------------------------------------------------------------------------

/-- Whether a character of markup stands for itself. -/
def isPlain (c : Char) : Bool :=
  !(['<', '>', '&', '\'', '"'].contains c)

/-- A character of markup is written as itself or by one of the five named references. -/
theorem exists_written_eq_markupChar (c : Char)
    : ∃ one : Manuscript.Character isPlain, one.written = markupChar c ∧ one.char = c := by
  by_cases hspecial : c ∈ ['<', '>', '&', '\'', '"']
  · simp only [List.mem_cons, List.not_mem_nil, or_false] at hspecial
    rcases hspecial with rfl | rfl | rfl | rfl | rfl
    · exact ⟨.reference (.named .lt), rfl, rfl⟩
    · exact ⟨.reference (.named .gt), rfl, rfl⟩
    · exact ⟨.reference (.named .amp), rfl, rfl⟩
    · exact ⟨.reference (.named .apos), rfl, rfl⟩
    · exact ⟨.reference (.named .quot), rfl, rfl⟩
  · have hplain : isPlain c = true := by simpa [isPlain] using hspecial
    simp only [List.mem_cons, List.not_mem_nil, or_false, not_or] at hspecial
    refine ⟨.literal c hplain, ?_, rfl⟩
    simp [Manuscript.Character.written, markupChar, hspecial]

/-- Escaped markup is expanded to what was escaped. -/
theorem expand_escapeMarkup (chars : List Char)
    : expand (lookupEntity? []) (escapeMarkup chars) = .ok chars := by
  choose one hwritten hchar using exists_written_eq_markupChar
  have hplain (c : Char) (h : isPlain c = true) : c ≠ '&' := by
    rintro rfl
    simp [isPlain] at h
  have hescaped : escapeMarkup chars
      = (chars.map one).flatMap Manuscript.Character.written := by
    rw [escapeMarkup, List.flatMap_map]
    exact List.flatMap_congr fun c _ => (hwritten c).symm
  have hmeant : (chars.map one).map Manuscript.Character.char = chars := by
    rw [List.map_map]
    exact List.map_id'' hchar chars
  rw [hescaped, expand, Manuscript.expandFrom_written hplain, hmeant]

-----------------------------------------------------------------------------------------
-- Pages
-----------------------------------------------------------------------------------------

/-- The record of a node. -/
def nodeValue (display : Display) (node : Node) : Json :=
  .object
    [("id", .string node.id.text),
      ("label", .string (match display with
        | .id => node.id.text
        | .label => node.label)),
      ("title", .string (hoverText node))]

/-- The record of an edge. -/
def edgeValue (edge : Edge) : Json :=
  .object
    [("from", .string edge.source.text), ("to", .string edge.target.text),
      ("label", .string edge.relation.text)]

/-- A text that can stand in a script on a line of its own: it has no line break and no `</`. -/
structure IsScriptLine (chars : List Char) : Prop where
  unbroken : ∀ c ∈ chars, c ≠ '\n' ∧ c ≠ '\r'
  noEnd : ¬ ['<', '/'] <:+: chars

theorem isScriptLine_scriptSafe (records : List (List (String × String)))
    : IsScriptLine (scriptSafe (jsonRecords records)) := by
  refine ⟨fun c hc => ?_, not_infix_scriptSafe _⟩
  have hcontrol := (controlFree_jsonRecords records).scriptSafe c hc
  constructor
  · rintro rfl
    exact absurd hcontrol (by decide)
  · rintro rfl
    exact absurd hcontrol (by decide)

/-- The nodes of a page are read as their records. -/
theorem parse_nodesText (display : Display) (graph : Graph)
    : Json.parse (nodesText display graph)
      = some (.array (graph.nodes.nodes.map (nodeValue display))) := by
  rw [nodesText, parse_scriptSafe, parse_jsonRecords, List.map_map]
  cases display <;> rfl

/-- The edges of a page are read as their records. -/
theorem parse_edgesText (graph : Graph)
    : Json.parse (edgesText graph) = some (.array (graph.edges.map edgeValue)) := by
  rw [edgesText, parse_scriptSafe, parse_jsonRecords, List.map_map]
  rfl

/-- The text of a page. -/
theorem toList_render (settings : RenderSettings) (graph : Graph)
    : (render settings graph).toList
      = pageStart ++ escapeMarkup settings.pageTitle.toList ++ pageScript
        ++ escapeMarkup settings.scriptUrl.toList ++ pageBody ++ nodesText settings.display graph
        ++ pageEdges ++ edgesText graph ++ pageEnd :=
  String.toList_ofList

/-- A page is its two lists between texts that do not depend on the graph. -/
theorem exists_render_eq (settings : RenderSettings)
    : ∃ front back : List Char, ∀ graph : Graph,
        (render settings graph).toList
          = front ++ "const nodes = ".toList ++ nodesText settings.display graph
            ++ ";\nconst edges = ".toList ++ edgesText graph ++ ";\n".toList ++ back := by
  obtain ⟨body, hbody⟩ : ∃ body, pageBody = body ++ "const nodes = ".toList := ⟨_, rfl⟩
  have hedges : pageEdges = ";\nconst edges = ".toList := rfl
  obtain ⟨back, hend⟩ : ∃ back, pageEnd = ";\n".toList ++ back := ⟨pageEnd.drop 2, rfl⟩
  refine ⟨pageStart ++ escapeMarkup settings.pageTitle.toList ++ pageScript
    ++ escapeMarkup settings.scriptUrl.toList ++ body, back, fun graph => ?_⟩
  rw [toList_render, hbody, hedges, hend]
  simp only [List.append_assoc]

/-- What is shown when a node is pointed at says its tag, its identifier and its label. -/
theorem expand_hoverText (node : Node)
    : expand (lookupEntity? []) (hoverText node).toList
      = .ok (node.tag ++ " / " ++ node.id.text ++ "\n" ++ node.label).toList := by
  rw [hoverText, String.toList_ofList]
  exact expand_escapeMarkup _

/-- A page holds its nodes and its edges as JSON, each on a line of its own between texts that do
not depend on the graph.  Each is read as the records of all nodes or edges in their order, whose
titles say the tag, the identifier and the label when their references are expanded.  In whatever
is embedded so, the backslashes that are written into it change nothing that is read.
-/
theorem parse_embedded (settings : RenderSettings)
    : ∃ front back : List Char, ∀ graph : Graph, ∃ nodes edges : List Char,
        (render settings graph).toList
            = front ++ "const nodes = ".toList ++ nodes ++ ";\nconst edges = ".toList ++ edges
              ++ ";\n".toList ++ back
          ∧ IsScriptLine nodes
          ∧ IsScriptLine edges
          ∧ Json.parse nodes
            = some (.array (graph.nodes.nodes.map (nodeValue settings.display)))
          ∧ Json.parse edges = some (.array (graph.edges.map edgeValue))
          ∧ (∀ node : Node,
            expand (lookupEntity? []) (hoverText node).toList
              = .ok (node.tag ++ " / " ++ node.id.text ++ "\n" ++ node.label).toList)
          ∧ ∀ chars : List Char, Json.parse (scriptSafe chars) = Json.parse chars := by
  obtain ⟨front, back, hpage⟩ := exists_render_eq settings
  refine ⟨front, back, fun graph => ?_⟩
  exact ⟨nodesText settings.display graph, edgesText graph, hpage graph,
    isScriptLine_scriptSafe _, isScriptLine_scriptSafe _, parse_nodesText settings.display graph,
    parse_edgesText graph, expand_hoverText, parse_scriptSafe⟩

end StoryAtlas.Render.Html
