import StoryAtlas.Proofs.Inference.OutgoingEdges
import StoryAtlas.Proofs.Story.Nodes

/-! Ends of edges have names.
Nodes have names that are not empty, and so have the targets that attributes name.  What a marker
leads to is the piece of text that a group of its pattern covers, and this piece may be empty; no
other edge has an end without a name.
-/

namespace StoryAtlas

open StoryAtlas.Text

-----------------------------------------------------------------------------------------
-- Nodes
-----------------------------------------------------------------------------------------

theorem Id.synthetic_ne_empty (tag : String) (index : Nat) : synthetic tag index ≠ ⟨""⟩ := by
  intro h
  have hlength := congrArg (fun id => id.text.toList.length) h
  simp [synthetic] at hlength

namespace Conventions

variable {conventions : Conventions} {document : Document}

/-- The identifier of an element is never empty. -/
theorem ne_empty_of_findId? {element : Element} {id : Id}
    (h : conventions.findId? element = some id)
    : id ≠ ⟨""⟩ := by
  obtain ⟨value, -, hvalue⟩ := Option.bind_eq_some_iff.1 h
  split at hvalue
  · cases hvalue
  · next hne =>
      rintro rfl
      exact hne (congrArg Id.text (Option.some.inj hvalue))

theorem ne_empty_of_mem_collect {node : Node} (h : node ∈ (conventions.collect document).nodes)
    : node.id ≠ ⟨""⟩ := by
  rw [nodes_collect, List.mem_mapIdx] at h
  obtain ⟨position, hlt, rfl⟩ := h
  have hentry := (firstOfEach_sublist Identified.id _).mem (List.getElem_mem hlt)
  obtain ⟨handle, -, hidentify⟩ := List.mem_filterMap.1 hentry
  exact ne_empty_of_findId? (identify?_eq_some_iff.1 hidentify).2.2

theorem ne_empty_of_mem_synthesize {node : Node}
    (h : node ∈ (conventions.synthesize document).nodes)
    : node.id ≠ ⟨""⟩ := by
  rw [nodes_synthesize, List.mem_mapIdx] at h
  obtain ⟨position, hlt, rfl⟩ := h
  exact Id.synthetic_ne_empty _ _

/-- No node has an empty name, whether it was collected or made up. -/
theorem ne_empty_of_mem_nodesOf {node : Node} (h : node ∈ (conventions.nodesOf document).1.nodes)
    : node.id ≠ ⟨""⟩ := by
  unfold nodesOf at h
  dsimp only at h
  split at h
  · exact ne_empty_of_mem_synthesize h
  · exact ne_empty_of_mem_collect h

end Conventions

-----------------------------------------------------------------------------------------
-- Targets
-----------------------------------------------------------------------------------------

namespace Inference

/-- A target named in an attribute is never empty. -/
theorem target_ne_empty_of_mem_elementTargets {element : Element} {names : List String}
    {found : NamedTarget} (h : found ∈ elementTargets element names)
    : found.target ≠ ⟨""⟩ := by
  obtain ⟨⟨name, value⟩, -, hfound⟩ := List.mem_flatMap.1 h
  obtain ⟨target, htarget, rfl⟩ := List.mem_map.1 hfound
  have hne : target ≠ [] := by simpa using (List.mem_filter.1 htarget).2
  simpa using hne

section Finds

variable {conventions : Conventions} {pattern : Pattern} {context : Context} {node : Node}
  {edge : Edge}

/-- Among named nodes, only a marker leads to an empty target: its group covers no text. -/
theorem Finds.of_empty_target (h : Finds conventions pattern context node edge)
    (hnamed : ∀ other ∈ context.nodes.nodes, other.id ≠ ⟨""⟩) (hempty : edge.target = ⟨""⟩)
    : ∃ element,
        context.element? node = some element
        ∧ [] ∈ pattern.groupPieces 1 element.text.toList
        ∧ edge = ⟨node.id, ⟨""⟩, .inlineMarker⟩ := by
  cases h with
  | ownAttribute located named =>
      exact absurd hempty (target_ne_empty_of_mem_elementTargets named)
  | @inlineMarker element piece located marked =>
      obtain rfl : piece = [] := by simpa using hempty
      exact ⟨element, located, marked, rfl⟩
  | childAttribute option named =>
      exact absurd hempty (target_ne_empty_of_mem_elementTargets named)
  | childNext option unnamed successor =>
      exact absurd hempty (hnamed _ (List.mem_of_getElem? successor))

/-- A marker whose group covers no text gives its node an edge to the empty target.  Of the finds
with this target and this relation text it is the only one, so the first one kept is this edge.
-/
theorem mem_nodeEdges_of_empty_piece {next? : Option Node} {element : Element}
    (hnamed : ∀ other ∈ context.nodes.nodes, other.id ≠ ⟨""⟩)
    (located : context.element? node = some element)
    (marked : [] ∈ pattern.groupPieces 1 element.text.toList)
    : ⟨node.id, ⟨""⟩, .inlineMarker⟩
      ∈ nodeEdges (standardCandidates conventions pattern context node) node next? := by
  have hmarker : Finds conventions pattern context node ⟨node.id, ⟨""⟩, .inlineMarker⟩ :=
    .inlineMarker located marked
  have hfound := mem_standardCandidates_iff.2 hmarker
  obtain ⟨first, hfirst, hkey⟩ := exists_mem_firstOfEach targetKey hfound
  have hfinds := mem_standardCandidates_iff.1 ((firstOfEach_sublist targetKey _).mem hfirst)
  obtain ⟨-, -, -, rfl⟩ := hfinds.of_empty_target hnamed (congrArg Prod.fst hkey)
  cases hall : standardCandidates conventions pattern context node with
  | nil => exact absurd (hall ▸ hfound) List.not_mem_nil
  | cons head rest =>
      rw [hall] at hfirst
      exact hfirst

end Finds

end Inference

section Graph

open Inference

variable {settings : Settings} {document : Document} {graph : Graph} {pattern : Pattern}

theorem Settings.ne_empty_of_mem_nodes (h : settings.buildGraph document = .ok graph) {node : Node}
    (hnode : node ∈ graph.nodes.nodes)
    : node.id ≠ ⟨""⟩ := by
  have hnodes : graph.nodes = (settings.conventions.nodesOf document).1 := by
    rw [nodesOf_of_buildGraph h]
  exact Conventions.ne_empty_of_mem_nodesOf (hnodes ▸ hnode)

/-- A marker whose group covers no text gives the graph an edge to the empty target. -/
theorem Settings.mem_edges_of_empty_piece
    (usable : settings.conventions.pattern = .ok pattern)
    (h : settings.buildGraph document = .ok graph) {node : Node} {element : Element}
    (hnode : node ∈ graph.nodes.nodes) (located : document.element? node.element = some element)
    (marked : [] ∈ pattern.groupPieces 1 element.text.toList)
    : ⟨node.id, ⟨""⟩, .inlineMarker⟩ ∈ graph.edges := by
  rw [edges_of_buildGraph usable h, mem_infer_iff]
  refine ⟨node, hnode, ?_⟩
  rw [candidates_detectorsWith]
  exact mem_nodeEdges_of_empty_piece (fun _ => ne_empty_of_mem_nodes h) located marked

/-- In a graph that was built all nodes have names and all edges leave a named end.  The edges to
an end without a name are those of the markers whose group covers no text.
-/
theorem Settings.mem_edges_and_unnamed_iff
    (usable : settings.conventions.pattern = .ok pattern)
    (h : settings.buildGraph document = .ok graph)
    : (∀ node ∈ graph.nodes.nodes, node.id.text ≠ "")
      ∧ (∀ edge ∈ graph.edges, edge.source.text ≠ "")
      ∧ ∀ edge,
          edge ∈ graph.edges ∧ edge.target.text = ""
          ↔ ∃ node ∈ graph.nodes.nodes,
              ∃ element,
                document.element? node.element = some element
                ∧ [] ∈ pattern.groupPieces 1 element.text.toList
                ∧ edge = ⟨node.id, ⟨""⟩, .inlineMarker⟩ := by
  have hedges := edges_of_buildGraph usable h
  refine ⟨?_, ?_, fun edge => ⟨?_, ?_⟩⟩
  · exact fun node hnode htext => ne_empty_of_mem_nodes h hnode (congrArg Id.mk htext)
  · intro edge hedge htext
    obtain ⟨node, hnode, hsource⟩ := exists_node_of_mem_infer (hedges ▸ hedge)
    exact ne_empty_of_mem_nodes h hnode (hsource ▸ congrArg Id.mk htext)
  · rintro ⟨hedge, htext⟩
    have hempty : edge.target = ⟨""⟩ := congrArg Id.mk htext
    obtain ⟨node, hnode, hnodeEdge⟩ := mem_infer_iff.1 (hedges ▸ hedge)
    rcases mem_nodeEdges_cases hnodeEdge with hfound | ⟨-, next, hnext, rfl⟩
    · rw [candidates_detectorsWith] at hfound
      have hfinds := mem_standardCandidates_iff.1 hfound
      exact ⟨node, hnode, hfinds.of_empty_target (fun _ => ne_empty_of_mem_nodes h) hempty⟩
    · exact absurd hempty (ne_empty_of_mem_nodes h (List.mem_of_getElem? hnext))
  · rintro ⟨node, hnode, element, located, marked, rfl⟩
    exact ⟨mem_edges_of_empty_piece usable h hnode located marked, rfl⟩

end Graph

-----------------------------------------------------------------------------------------
-- An arrow that leads nowhere
-----------------------------------------------------------------------------------------

/-- Conventions with arrows whose name may be missing. -/
def Conventions.bareArrows : Conventions := { inlinePattern := "->([a-z]*)" }

/-- The pattern of an arrow and a name that may be missing. -/
def Pattern.bareArrow : Pattern where
  groupCount := 2
  program :=
    {
      code :=
        #[
          .accept,
          .mark 3 0,
          .choose 3 1,
          .consume ⟨[(97, 122)]⟩ 2,
          .mark 2 2,
          .consume ⟨[(62, 62)]⟩ 4,
          .consume ⟨[(45, 45)]⟩ 5
        ]
      start := 6
    }

theorem Conventions.pattern_bareArrows : bareArrows.pattern = .ok .bareArrow := rfl

/-- In an arrow alone the group covers no text. -/
theorem Pattern.groupPieces_bareArrow : bareArrow.groupPieces 1 ['-', '>'] = [[]] := by
  simp [groupPieces, allMatches, bareArrow, Program.wayBound, Program.matchesFrom,
    Program.searchAfter, Program.search, Program.searchFrom, Program.explore, Place.start,
    CharSet.contains, CharSet.containsCode, Text.Unicode.inRanges, Match.length]
  rfl

/-- A story with an arrow for its text. -/
def Document.arrowStory : Document :=
  (Document.new "story" (.ofList [("id", "a")])).appendText 0 "->"

/-- The only node of the story with an arrow. -/
def Node.arrowStory : Node :=
  { id := ⟨"a"⟩, label := "->", tag := "story", order := 0, element := 0 }

theorem Conventions.nodes_arrowStory
    : (bareArrows.nodesOf .arrowStory).1.nodes = [.arrowStory] := by
  decide +kernel

theorem Settings.exists_graph_arrowStory
    : ∃ graph : Graph,
        ({ conventions := .bareArrows } : Settings).buildGraph .arrowStory = .ok graph
        ∧ graph.nodes.nodes = [.arrowStory] := by
  have hbuild : ∃ graph : Graph,
      ({ conventions := .bareArrows } : Settings).buildGraph .arrowStory = .ok graph :=
    ⟨_, buildGraph_of_pattern Conventions.pattern_bareArrows .arrowStory⟩
  obtain ⟨graph, h⟩ := hbuild
  refine ⟨graph, h, ?_⟩
  rw [← Conventions.nodes_arrowStory, nodesOf_of_buildGraph h]

/-- The arrow leads to an end without a name. -/
theorem Settings.mem_edges_and_unnamed_iff_of_arrow
    : Conventions.bareArrows.pattern = .ok .bareArrow
      ∧ ∃ graph : Graph,
          ({ conventions := .bareArrows } : Settings).buildGraph .arrowStory = .ok graph
          ∧ ⟨⟨"a"⟩, ⟨""⟩, .inlineMarker⟩ ∈ graph.edges := by
  obtain ⟨graph, h, hnodes⟩ := exists_graph_arrowStory
  have hmarked : [] ∈ Pattern.bareArrow.groupPieces 1 ['-', '>'] :=
    Pattern.groupPieces_bareArrow ▸ List.mem_cons_self
  have hiff := mem_edges_and_unnamed_iff Conventions.pattern_bareArrows h
  exact ⟨Conventions.pattern_bareArrows, graph, h,
    ((hiff.2.2 _).2 ⟨.arrowStory, by simp [hnodes], _, rfl, hmarked, rfl⟩).1⟩

/-- Not every graph that was built has names at both ends of its edges. -/
theorem Settings.not_forall_mem_edges_named
    : ¬ ∀ (settings : Settings) (document : Document) (graph : Graph),
          settings.buildGraph document = .ok graph
          → (∀ node ∈ graph.nodes.nodes, node.id.text ≠ "")
            ∧ ∀ edge ∈ graph.edges, edge.source.text ≠ "" ∧ edge.target.text ≠ "" := by
  intro hnamed
  obtain ⟨graph, h, hnodes⟩ := exists_graph_arrowStory
  have hmarked : [] ∈ Pattern.bareArrow.groupPieces 1 ['-', '>'] :=
    Pattern.groupPieces_bareArrow ▸ List.mem_cons_self
  have hedge : ⟨Node.arrowStory.id, ⟨""⟩, .inlineMarker⟩ ∈ graph.edges :=
    mem_edges_of_empty_piece Conventions.pattern_bareArrows h (by simp [hnodes])
      rfl hmarked
  exact ((hnamed _ _ graph h).2 _ hedge).2 rfl

end StoryAtlas
