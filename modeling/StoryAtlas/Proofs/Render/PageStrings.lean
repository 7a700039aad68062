import StoryAtlas.Proofs.Render.PageTags

/-! Pages of harmless strings.
Whatever stands between the strings of the embedded data, and whatever is written into them, is no
part of a `<!--`.  So a comment can begin in the embedded data only if one of the strings of the
graph holds a `<!--` itself.
-/

namespace StoryAtlas.Render.Html

open StoryAtlas.Text

variable {piece chars : List Char}

-----------------------------------------------------------------------------------------
-- Pieces of written text
-----------------------------------------------------------------------------------------

/-- A piece of separated items is one of an item, by induction on these. -/
theorem exists_isInfix_of_intercalate {c : Char} {items : List (List Char)} (hne : piece ≠ [])
    (hc : c ∉ piece) (h : piece <:+: [c].intercalate items)
    : ∃ item ∈ items, piece <:+: item := by
  induction items with
  | nil => exact absurd (List.eq_nil_of_infix_nil h) hne
  | cons item items ih =>
      cases items with
      | nil => exact ⟨item, List.mem_cons_self, by simpa using h⟩
      | cons next items =>
          rw [List.intercalate_cons_cons, List.append_assoc, List.singleton_append] at h
          rcases isInfix_of_separator hc h with hitem | hrest
          · exact ⟨item, List.mem_cons_self, hitem⟩
          · obtain ⟨other, hmem, hother⟩ := ih hrest
            exact ⟨other, List.mem_cons_of_mem item hmem, hother⟩

/-- A piece of enclosed text is one of the text. -/
theorem isInfix_of_enclosed {c d : Char} (hne : piece ≠ []) (hc : c ∉ piece) (hd : d ∉ piece)
    (h : piece <:+: c :: (chars ++ [d]))
    : piece <:+: chars := by
  have hparts : piece <:+: [] ++ c :: (chars ++ [d]) := h
  rcases isInfix_of_separator hc hparts with hnil | hinside
  · exact absurd (List.eq_nil_of_infix_nil hnil) hne
  · rcases isInfix_of_separator hd hinside with hchars | hnil
    · exact hchars
    · exact absurd (List.eq_nil_of_infix_nil hnil) hne

/-- A way to write characters that leaves a piece alone: a character is written as itself or as
others that are not of the piece.
-/
def LeavesAlone (write : Char → List Char) (piece : List Char) : Prop :=
  ∀ c, write c = [c] ∨ write c ≠ [] ∧ ∀ d ∈ piece, d ∉ write c

/-- A piece that begins what is written begins the text, by induction on the text. -/
theorem isPrefix_of_flatMap {write : Char → List Char} (hwrite : LeavesAlone write piece)
    (h : piece <+: chars.flatMap write)
    : piece <+: chars := by
  induction chars generalizing piece with
  | nil => exact h
  | cons c chars ih =>
      cases piece with
      | nil => exact List.nil_prefix
      | cons p piece =>
          rw [List.flatMap_cons] at h
          rcases hwrite c with hself | ⟨hne, hother⟩
          · rw [hself, List.singleton_append, List.cons_prefix_cons] at h
            obtain ⟨rfl, hrest⟩ := h
            have hpiece : LeavesAlone write piece := fun d =>
              (hwrite d).imp_right fun ⟨hne, hd⟩ => ⟨hne, (List.forall_mem_cons.1 hd).2⟩
            exact List.cons_prefix_cons.2 ⟨rfl, ih hpiece hrest⟩
          · obtain ⟨first, rest, hwritten⟩ := List.exists_cons_of_ne_nil hne
            rw [hwritten, List.cons_append, List.cons_prefix_cons] at h
            exact absurd (hwritten ▸ h.1 ▸ List.mem_cons_self) (hother p List.mem_cons_self)

/-- A piece of what is written is one of the text, by induction on the text. -/
theorem isInfix_of_flatMap {write : Char → List Char} (hwrite : LeavesAlone write piece)
    (h : piece <:+: chars.flatMap write)
    : piece <:+: chars := by
  induction chars with
  | nil => exact h
  | cons c chars ih =>
      rw [List.flatMap_cons] at h
      have hrest (hinner : piece <:+: chars.flatMap write) : piece <:+: c :: chars :=
        List.infix_cons_iff.2 (Or.inr (ih hinner))
      rcases hwrite c with hself | ⟨-, hother⟩
      · rw [hself, List.singleton_append, List.infix_cons_iff] at h
        rcases h with hprefix | hinner
        · have hwhole : piece <+: (c :: chars).flatMap write := by
            rwa [List.flatMap_cons, hself]
          exact (isPrefix_of_flatMap hwrite hwhole).isInfix
        · exact hrest hinner
      · cases piece with
        | nil => exact List.nil_infix
        | cons p piece =>
            exact hrest (isInfix_of_append (hother p List.mem_cons_self) h)

/-- Backslashes are written behind a `<` only, so they change nothing up to the first one. -/
theorem isPrefix_of_scriptSafe (hless : '<' ∉ piece) (h : piece <+: scriptSafe chars)
    : piece <+: chars := by
  unfold scriptSafe at h
  fun_induction replacePair '<' '/' ['<', '\\', '/'] chars generalizing piece with
  | case1 a b chars hpair ih =>
      cases piece with
      | nil => exact List.nil_prefix
      | cons p piece =>
          have hp : p = '<' := (List.cons_prefix_cons.1 h).1
          exact absurd (hp ▸ List.mem_cons_self) hless
  | case2 a b chars hpair ih =>
      cases piece with
      | nil => exact List.nil_prefix
      | cons p piece =>
          obtain ⟨rfl, hrest⟩ := List.cons_prefix_cons.1 h
          exact List.cons_prefix_cons.2 ⟨rfl, ih (fun hmem => hless (.tail _ hmem)) hrest⟩
  | case3 chars hother => exact h

/-- A piece with one `<` and without backslashes is in a text if it is there when the backslashes
are written, by induction on the steps of the replacement.
-/
theorem isInfix_of_scriptSafe (hne : piece ≠ []) (hless : '<' ∉ piece) (hback : '\\' ∉ piece)
    (h : '<' :: piece <:+: scriptSafe chars)
    : '<' :: piece <:+: chars := by
  unfold scriptSafe at h
  fun_induction replacePair '<' '/' ['<', '\\', '/'] chars with
  | case1 a b chars hpair ih =>
      rcases List.infix_cons_iff.1 h with hprefix | hrest
      · obtain ⟨p, rest, rfl⟩ := List.exists_cons_of_ne_nil hne
        have hp : p = '\\' :=
          (List.cons_prefix_cons.1 (List.cons_prefix_cons.1 hprefix).2).1
        exact absurd (hp ▸ List.mem_cons_self) hback
      · have hnew : '<' ∉ ['\\', '/'] := by decide
        have hinner := ih (isInfix_of_append hnew hrest)
        exact List.infix_cons_iff.2 (Or.inr (List.infix_cons_iff.2 (Or.inr hinner)))
  | case2 a b chars hpair ih =>
      rcases List.infix_cons_iff.1 h with hprefix | hrest
      · obtain ⟨rfl, hbehind⟩ := List.cons_prefix_cons.1 hprefix
        exact (List.cons_prefix_cons.2 ⟨rfl, isPrefix_of_scriptSafe hless hbehind⟩).isInfix
      · exact List.infix_cons_iff.2 (Or.inr (ih hrest))
  | case3 chars hother => exact h

-----------------------------------------------------------------------------------------
-- Beginnings of comments
-----------------------------------------------------------------------------------------

/-- The beginning of a comment is in a text. -/
def BeginsComment (chars : List Char) : Prop :=
  ['<', '!', '-', '-'] <:+: chars

theorem Commented.begins (h : Commented chars) : BeginsComment chars := by
  obtain ⟨inside, ⟨before, rfl⟩, -⟩ := h
  exact List.infix_append before _ inside

theorem leavesAlone_jsonChar : LeavesAlone jsonChar ['<', '!', '-', '-'] := by
  intro c
  rcases jsonChar_cases c with ⟨hself, -⟩ | ⟨hne, hescaped⟩
  · exact Or.inl hself
  · refine Or.inr ⟨hne, fun d hd hmem => ?_⟩
    have hother := hescaped hmem
    simp only [List.mem_cons, List.not_mem_nil, or_false] at hd
    rcases hd with rfl | rfl | rfl | rfl <;> exact absurd hother (by decide)

theorem BeginsComment.of_jsonString {text : String} (h : BeginsComment (jsonString text))
    : BeginsComment text.toList :=
  isInfix_of_flatMap leavesAlone_jsonChar
    (isInfix_of_enclosed (by decide) (by decide) (by decide) h)

/-- A comment that begins in a record begins in one of its strings. -/
theorem BeginsComment.of_jsonRecord {fields : List (String × String)}
    (h : BeginsComment (jsonRecord fields))
    : ∃ field ∈ fields, BeginsComment field.1.toList ∨ BeginsComment field.2.toList := by
  have hinside := isInfix_of_enclosed (by decide) (by decide) (by decide) h
  obtain ⟨item, hmem, hitem⟩ :=
    exists_isInfix_of_intercalate (by decide) (by decide) hinside
  obtain ⟨field, hfield, rfl⟩ := List.mem_map.1 hmem
  refine ⟨field, hfield, ?_⟩
  exact (isInfix_of_separator (by decide) hitem).imp .of_jsonString .of_jsonString

/-- A comment that begins in a list of records begins in a string of one of them. -/
theorem BeginsComment.of_jsonRecords {records : List (List (String × String))}
    (h : BeginsComment (scriptSafe (jsonRecords records)))
    : ∃ record ∈ records, ∃ field ∈ record,
        BeginsComment field.1.toList ∨ BeginsComment field.2.toList := by
  have hrecords := isInfix_of_scriptSafe (by decide) (by decide) (by decide) h
  have hinside := isInfix_of_enclosed (by decide) (by decide) (by decide) hrecords
  obtain ⟨item, hmem, hitem⟩ :=
    exists_isInfix_of_intercalate (by decide) (by decide) hinside
  obtain ⟨record, hrecord, rfl⟩ := List.mem_map.1 hmem
  exact ⟨record, hrecord, BeginsComment.of_jsonRecord hitem⟩

/-- A comment that begins in the embedded data begins in that of the nodes or of the edges. -/
theorem BeginsComment.of_scriptData {display : Display} {graph : Graph}
    (h : BeginsComment (scriptData display graph))
    : BeginsComment (nodesText display graph) ∨ BeginsComment (edgesText graph) := by
  rw [scriptData_eq] at h
  rcases isInfix_of_separator (by decide) h with hnodes | hbehind
  · exact Or.inl hnodes
  · rcases isInfix_of_separator (by decide) hbehind with hbetween | hedges
    · exact absurd hbetween (by decide)
    · exact Or.inr hedges

/-- Escaped markup has no `<`. -/
theorem not_beginsComment_hoverText (node : Node) : ¬ BeginsComment (hoverText node).toList := by
  rw [hoverText, String.toList_ofList]
  intro h
  exact (ne_of_mem_escapeMarkup (h.subset List.mem_cons_self)).1 rfl

/-- The strings of a graph that a page shows as they are. -/
def shownStrings (display : Display) (graph : Graph) : List String :=
  graph.nodes.nodes.flatMap (fun node => [node.id.text, Dot.shownLabel display node])
    ++ graph.edges.flatMap fun edge => [edge.source.text, edge.target.text, edge.relation.text]

/-- A comment that begins in the embedded data begins in a string of the graph. -/
theorem BeginsComment.exists_shownString {display : Display} {graph : Graph}
    (h : BeginsComment (scriptData display graph))
    : ∃ text ∈ shownStrings display graph, BeginsComment text.toList := by
  have hname : ∀ name ∈ ["id", "label", "title", "from", "to"], ¬ BeginsComment name.toList := by
    unfold BeginsComment
    decide
  rcases h.of_scriptData with hnodes | hedges
  · obtain ⟨record, hrecord, field, hfield, hbegins⟩ := hnodes.of_jsonRecords
    obtain ⟨node, hnode, rfl⟩ := List.mem_map.1 hrecord
    have hshown {text : String} (htext : text ∈ [node.id.text, Dot.shownLabel display node])
        : text ∈ shownStrings display graph :=
      List.mem_append_left _ (List.mem_flatMap.2 ⟨node, hnode, htext⟩)
    simp only [nodeFields, List.mem_cons, List.not_mem_nil, or_false] at hfield
    rcases hfield with rfl | rfl | rfl
    · exact ⟨_, hshown (by simp), hbegins.resolve_left (hname "id" (by simp))⟩
    · exact ⟨_, hshown (by simp), hbegins.resolve_left (hname "label" (by simp))⟩
    · rcases hbegins with htitle | htitle
      · exact absurd htitle (hname "title" (by simp))
      · exact absurd htitle (not_beginsComment_hoverText node)
  · obtain ⟨record, hrecord, field, hfield, hbegins⟩ := hedges.of_jsonRecords
    obtain ⟨edge, hedge, rfl⟩ := List.mem_map.1 hrecord
    have hshown {text : String}
        (htext : text ∈ [edge.source.text, edge.target.text, edge.relation.text])
        : text ∈ shownStrings display graph :=
      List.mem_append_right _ (List.mem_flatMap.2 ⟨edge, hedge, htext⟩)
    simp only [edgeFields, List.mem_cons, List.not_mem_nil, or_false] at hfield
    rcases hfield with rfl | rfl | rfl
    · exact ⟨_, hshown (by simp), hbegins.resolve_left (hname "from" (by simp))⟩
    · exact ⟨_, hshown (by simp), hbegins.resolve_left (hname "to" (by simp))⟩
    · exact ⟨_, hshown (by simp), hbegins.resolve_left (hname "label" (by simp))⟩

/-- A page has the tags of the page of the empty graph, whatever else it is made from, if no
identifier, no shown label and no relation of its graph holds a `<!--`.
-/
theorem tags_render_of_shownStrings {settings : RenderSettings} {graph : Graph}
    (h : ∀ text ∈ shownStrings settings.display graph, ¬ BeginsComment text.toList)
    : tags (render settings graph) = tags (render {} emptyGraph) := by
  rw [tags_render_emptyGraph]
  refine tags_render fun hscript => ?_
  obtain ⟨text, hmem, hbegins⟩ := hscript.commented.begins.exists_shownString
  exact h text hmem hbegins

end StoryAtlas.Render.Html
