import StoryAtlas.Proofs.Inference.OutgoingEdges

/-! The shape of fallback edges.
An edge for which no target was named leads to the next node.  What else leaves its node depends
on the kind of fallback: a node without any find has the one edge only, a node with a single
option that names no target has no other edge of an option, and a fallback under a tag comes with
several options.
-/

namespace StoryAtlas

/-- Whether a relation is that of an edge for which no target was named. -/
def Relation.isFallback : Relation → Bool
  | ownAttribute _ | inlineMarker | childAttribute _ _ => false
  | childDefaultNext | childTagDefaultNext _ | defaultNext => true

theorem Relation.isFallback_eq_false_iff {relation : Relation}
    : relation.isFallback = false
      ↔ (∃ name, relation = .ownAttribute name)
        ∨ relation = .inlineMarker
        ∨ ∃ tag name, relation = .childAttribute tag name := by
  cases relation <;> simp [isFallback]

namespace Registry

variable {registry : Registry} {node next : Node}

/-- The next node is another node. -/
theorem id_ne_of_nextAfter? (hnode : node ∈ registry.nodes)
    (h : registry.nextAfter? node = some next)
    : node.id ≠ next.id := by
  intro hid
  have horder := order_nextAfter? h
  rw [← eq_of_id_eq hnode (mem_of_nextAfter? h) hid] at horder
  exact Nat.succ_ne_self _ horder.symm

end Registry

namespace Inference

-----------------------------------------------------------------------------------------
-- Fallbacks of one node
-----------------------------------------------------------------------------------------

namespace Finds

variable {conventions : Conventions} {pattern : Pattern} {context : Context} {node : Node}
  {edge other : Edge}

theorem relation_ne_defaultNext (h : Finds conventions pattern context node edge)
    : edge.relation ≠ .defaultNext := by
  cases h with
  | childNext => split <;> simp
  | _ => simp

/-- A fallback of an option leads to the next node. -/
theorem successor (h : Finds conventions pattern context node edge)
    (hfallback : edge.relation.isFallback = true)
    : ∃ next, context.nodes.nextAfter? node = some next ∧ edge.target = next.id := by
  cases h with
  | childNext option unnamed successor => exact ⟨_, successor, rfl⟩
  | _ => simp [Relation.isFallback] at hfallback

/-- The plain fallback of an option is that of a single option without a target. -/
theorem single_of_childDefaultNext (h : Finds conventions pattern context node edge)
    (hrelation : edge.relation = .childDefaultNext)
    : ∃ child,
        optionChildren conventions context node = [child]
        ∧ hasTargetValue child conventions.targetAttributes = false := by
  cases h with
  | childNext option unnamed successor =>
      by_cases hsingle : (optionChildren conventions context node).length = 1
      · obtain ⟨only, honly⟩ := List.length_eq_one_iff.1 hsingle
        rw [honly, List.mem_singleton] at option
        exact ⟨only, honly, option ▸ unnamed⟩
      · simp [hsingle] at hrelation
  | _ => simp at hrelation

/-- A fallback under a tag is that of one of several options. -/
theorem several_of_childTagDefaultNext {tag : String}
    (h : Finds conventions pattern context node edge)
    (hrelation : edge.relation = .childTagDefaultNext tag)
    : 2 ≤ (optionChildren conventions context node).length := by
  cases h with
  | childNext option unnamed successor =>
      have hpos := List.length_pos_of_mem option
      by_cases hsingle : (optionChildren conventions context node).length = 1
      · simp [hsingle] at hrelation
      · omega
  | _ => simp at hrelation

/-- Beside the plain fallback of an option there is no other edge of an option: the only option
names no target.
-/
theorem not_child_of_childDefaultNext (h : Finds conventions pattern context node edge)
    (hrelation : edge.relation = .childDefaultNext)
    (hother : Finds conventions pattern context node other)
    : (∀ tag name, other.relation ≠ .childAttribute tag name)
      ∧ ∀ tag, other.relation ≠ .childTagDefaultNext tag := by
  obtain ⟨only, honly, hunnamed⟩ := h.single_of_childDefaultNext hrelation
  cases hother with
  | childAttribute option named =>
      rw [honly, List.mem_singleton] at option
      have hvalue := hasTargetValue_of_mem_elementTargets named
      rw [option, hunnamed] at hvalue
      cases hvalue
  | childNext => simp [honly]
  | _ => simp

end Finds

-----------------------------------------------------------------------------------------
-- Fallbacks of a graph
-----------------------------------------------------------------------------------------

/-- How fallback edges lie in the graph of a document. -/
structure FallbacksInPlace (conventions : Conventions) (document : Document) (graph : Graph)
    : Prop where
  /-- Every edge leaves a node. -/
  sources : ∀ edge ∈ graph.edges, ∃ node ∈ graph.nodes.nodes, edge.source = node.id
  /-- A fallback leads from a node to another one, whose order is the next. -/
  successors
    : ∀ edge ∈ graph.edges,
        edge.relation.isFallback = true
        → edge.source ≠ edge.target
          ∧ ∃ node ∈ graph.nodes.nodes,
              ∃ next ∈ graph.nodes.nodes,
                edge.source = node.id ∧ edge.target = next.id ∧ next.order = node.order + 1
  /-- Only an edge for which a target was named dangles. -/
  dangling
    : ∀ edge ∈ graph.dangling,
        (∃ name, edge.relation = .ownAttribute name)
        ∨ edge.relation = .inlineMarker
        ∨ ∃ tag name, edge.relation = .childAttribute tag name
  /-- The fallback of a node is the only edge that leaves it. -/
  alone
    : ∀ edge ∈ graph.edges,
        edge.relation = .defaultNext
        → graph.edges.filter (fun other => other.source = edge.source) = [edge]
  /-- The plain fallback of an option is that of the only option of the node. -/
  single
    : ∀ edge ∈ graph.edges,
        edge.relation = .childDefaultNext
        → ∀ node ∈ graph.nodes.nodes,
            node.id = edge.source
            → (optionChildren conventions ⟨document, graph.nodes⟩ node).length = 1
              ∧ ∀ other ∈ graph.edges,
                  other.source = edge.source
                  → (∀ tag name, other.relation ≠ .childAttribute tag name)
                    ∧ ∀ tag, other.relation ≠ .childTagDefaultNext tag
  /-- A fallback under a tag is that of one of several options of the node. -/
  several
    : ∀ edge ∈ graph.edges,
        ∀ tag,
          edge.relation = .childTagDefaultNext tag
          → ∀ node ∈ graph.nodes.nodes,
              node.id = edge.source
              → 2 ≤ (optionChildren conventions ⟨document, graph.nodes⟩ node).length

section Graph

variable {conventions : Conventions} {pattern : Pattern} {document : Document}
  {nodes : Registry} {node : Node} {edge : Edge}

/-- An edge that leaves a node is a find for it, or the only edge and leads to the next node. -/
theorem finds_or_alone (hnode : node ∈ nodes.nodes)
    (hedge : edge ∈ infer (conventions.detectorsWith pattern) ⟨document, nodes⟩)
    (hsource : edge.source = node.id)
    : Finds conventions pattern ⟨document, nodes⟩ node edge
      ∨ (infer (conventions.detectorsWith pattern) ⟨document, nodes⟩).filter
            (fun other => other.source = node.id) = [edge]
        ∧ ∃ next,
            nodes.nextAfter? node = some next
            ∧ edge = ⟨node.id, next.id, .defaultNext⟩ := by
  have hown := @filter_source_infer (conventions.detectorsWith pattern) document _ _ hnode
  have hmem : edge
      ∈ (infer (conventions.detectorsWith pattern) ⟨document, nodes⟩).filter
          fun other => other.source = node.id :=
    List.mem_filter.2 ⟨hedge, decide_eq_true hsource⟩
  rw [hown] at hmem ⊢
  rcases mem_nodeEdges_cases hmem with hfound | ⟨hnone, next, hnext, rfl⟩
  · rw [candidates_detectorsWith] at hfound
    exact Or.inl (mem_standardCandidates_iff.1 hfound)
  · exact Or.inr ⟨by simp [hnone, hnext, nodeEdges], next, hnext, rfl⟩

/-- A fallback leads from a node to the next one. -/
theorem exists_next_of_isFallback
    (hedge : edge ∈ infer (conventions.detectorsWith pattern) ⟨document, nodes⟩)
    (hfallback : edge.relation.isFallback = true)
    : ∃ node ∈ nodes.nodes,
        ∃ next,
          nodes.nextAfter? node = some next ∧ edge.source = node.id ∧ edge.target = next.id := by
  obtain ⟨node, hnode, hsource⟩ := exists_node_of_mem_infer hedge
  refine ⟨node, hnode, ?_⟩
  rcases finds_or_alone hnode hedge hsource with hfound | ⟨-, next, hnext, rfl⟩
  · obtain ⟨next, hnext, htarget⟩ := hfound.successor hfallback
    exact ⟨next, hnext, hsource, htarget⟩
  · exact ⟨next, hnext, rfl, rfl⟩

/-- The edge of a node without any find is the only one that leaves it. -/
theorem filter_source_of_defaultNext
    (hedge : edge ∈ infer (conventions.detectorsWith pattern) ⟨document, nodes⟩)
    (hrelation : edge.relation = .defaultNext)
    : (infer (conventions.detectorsWith pattern) ⟨document, nodes⟩).filter
        (fun other => other.source = edge.source) = [edge] := by
  obtain ⟨node, hnode, hsource⟩ := exists_node_of_mem_infer hedge
  rcases finds_or_alone hnode hedge hsource with hfound | ⟨halone, -⟩
  · exact absurd hrelation hfound.relation_ne_defaultNext
  · rw [hsource, halone]

/-- An edge other than the fallback of a node is a find. -/
theorem finds_of_relation_ne (hnode : node ∈ nodes.nodes)
    (hedge : edge ∈ infer (conventions.detectorsWith pattern) ⟨document, nodes⟩)
    (hsource : edge.source = node.id) (hrelation : edge.relation ≠ .defaultNext)
    : Finds conventions pattern ⟨document, nodes⟩ node edge := by
  rcases finds_or_alone hnode hedge hsource with hfound | ⟨-, next, -, rfl⟩
  · exact hfound
  · exact absurd rfl hrelation

end Graph

end Inference

open Inference in
/-- The fallback edges of every graph that was built lie in place. -/
theorem Settings.fallbacksInPlace_of_buildGraph {settings : Settings} {document : Document}
    {graph : Graph} (h : settings.buildGraph document = .ok graph)
    : FallbacksInPlace settings.conventions document graph := by
  obtain ⟨pattern, usable⟩ := exists_pattern_of_buildGraph h
  have hedges := edges_of_buildGraph usable h
  refine
    {
      sources := fun edge hedge => exists_node_of_mem_infer (hedges ▸ hedge)
      successors := ?successors
      dangling := ?dangling
      alone := ?alone
      single := ?single
      several := ?several
    }
  case successors =>
    intro edge hedge hfallback
    obtain ⟨node, hnode, next, hnext, hsource, htarget⟩ :=
      exists_next_of_isFallback (hedges ▸ hedge) hfallback
    rw [hsource, htarget]
    exact ⟨Registry.id_ne_of_nextAfter? hnode hnext, node, hnode, next,
      Registry.mem_of_nextAfter? hnext, rfl, rfl, Registry.order_nextAfter? hnext⟩
  case dangling =>
    intro edge hdangling
    obtain ⟨hedge, habsent⟩ := List.mem_filter.1 hdangling
    rw [← Relation.isFallback_eq_false_iff, Bool.eq_false_iff]
    intro hfallback
    obtain ⟨_, -, next, hnext, -, htarget⟩ :=
      exists_next_of_isFallback (hedges ▸ hedge) hfallback
    have hmem := List.mem_map_of_mem (f := Node.id) (Registry.mem_of_nextAfter? hnext)
    rw [← htarget, ← Registry.contains_iff] at hmem
    simp [hmem] at habsent
  case alone =>
    intro edge hedge hrelation
    rw [hedges] at hedge ⊢
    exact filter_source_of_defaultNext hedge hrelation
  case single =>
    intro edge hedge hrelation node hnode hid
    have hfound := finds_of_relation_ne hnode (hedges ▸ hedge) hid.symm (by simp [hrelation])
    obtain ⟨only, honly, -⟩ := hfound.single_of_childDefaultNext hrelation
    refine ⟨by rw [honly, List.length_singleton], fun other hother hsource => ?_⟩
    by_cases hdefault : other.relation = .defaultNext
    · simp [hdefault]
    · have hotherFound := finds_of_relation_ne hnode (hedges ▸ hother) (hsource.trans hid.symm)
        hdefault
      exact hfound.not_child_of_childDefaultNext hrelation hotherFound
  case several =>
    intro edge hedge tag hrelation node hnode hid
    have hfound := finds_of_relation_ne hnode (hedges ▸ hedge) hid.symm (by simp [hrelation])
    exact hfound.several_of_childTagDefaultNext hrelation

/-- A story of three scenes, with one option in the first and two in the second. -/
def Document.threeScenes : Document :=
  let scene (document : Document) (id : String) : Document :=
    (document.addChild 0 "scene" (.ofList [("id", id)])).1
  let option (document : Document) (parent : ElementId) : Document :=
    (document.addChild parent "choice" .empty).1
  option (option (option (scene (scene (scene (.new "story" .empty) "a") "b") "c") 1) 2) 2

theorem Settings.fallbacksInPlace_of_buildGraph_of_three_scenes
    : ∃ graph : Graph,
        ({ conventions := .arrowMarkers } : Settings).buildGraph .threeScenes = .ok graph
        ∧ graph.nodes.nodes.map Node.id = [⟨"a"⟩, ⟨"b"⟩, ⟨"c"⟩]
        ∧ Inference.FallbacksInPlace .arrowMarkers .threeScenes graph := by
  obtain ⟨pattern, usable⟩ := Conventions.pattern_arrowMarkers
  have hbuild : ∃ graph : Graph,
      ({ conventions := .arrowMarkers } : Settings).buildGraph .threeScenes = .ok graph :=
    ⟨_, buildGraph_of_pattern usable .threeScenes⟩
  have hids : (Conventions.arrowMarkers.nodesOf .threeScenes).1.nodes.map Node.id
      = [⟨"a"⟩, ⟨"b"⟩, ⟨"c"⟩] := by
    decide +kernel
  obtain ⟨graph, h⟩ := hbuild
  refine ⟨graph, h, ?_, fallbacksInPlace_of_buildGraph h⟩
  rw [← hids, nodesOf_of_buildGraph h]

end StoryAtlas
