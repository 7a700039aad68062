import StoryAtlas.Proofs.Inference.NodeEdges
import StoryAtlas.Proofs.Registry.Registrations

/-! The edges that leave a node.
Of all edges of a story, those that leave a node are the ones it has on its own: what the
detectors find for it or, if they find nothing, the way to the next node.  Each find is told by
the sign that it was read from.
-/

namespace StoryAtlas

namespace Inference

-----------------------------------------------------------------------------------------
-- The edges of one node among all
-----------------------------------------------------------------------------------------

section Run

variable {detectors : List Detector} {document : Document} {nodes : Registry}

/-- Every edge leaves a node. -/
theorem exists_node_of_mem_infer {edge : Edge} (h : edge ∈ infer detectors ⟨document, nodes⟩)
    : ∃ node ∈ nodes.nodes, edge.source = node.id := by
  have hsource := source_mem_of_mem_edgesAfter (List.append_nil nodes.nodes).symm edge
    (Array.mem_toList_iff.1 h)
  obtain ⟨node, hnode, hid⟩ := List.mem_map.1 hsource
  exact ⟨node, hnode, hid.symm⟩

theorem mem_of_mem_withNext {rest : List Node} {node : Node} {next? : Option Node}
    (h : (node, next?) ∈ withNext rest)
    : node ∈ rest := by
  induction rest with
  | nil => exact absurd h List.not_mem_nil
  | cons first rest ih =>
      rcases List.mem_cons.1 h with heq | hrest
      · exact List.mem_cons.2 (Or.inl (congrArg Prod.fst heq))
      · exact List.mem_cons_of_mem _ (ih hrest)

/-- The edges that leave a node are those it has on its own.  The nodes in front and behind have
other identifiers.
-/
theorem filter_source_infer {node : Node} (h : node ∈ nodes.nodes)
    : (infer detectors ⟨document, nodes⟩).filter (fun edge => edge.source = node.id)
      = nodeEdges (candidates detectors ⟨document, nodes⟩ node) node
          (nodes.nextAfter? node) := by
  obtain ⟨before, after, hsplit⟩ := List.append_of_mem h
  have hdistinct := nodes.distinct
  rw [hsplit, List.map_append, List.map_cons, List.nodup_middle, List.nodup_cons,
    List.mem_append, not_or] at hdistinct
  obtain ⟨⟨hbefore, hafter⟩, -⟩ := hdistinct
  have hsource {other : Node} {next? : Option Node} {edge : Edge}
      (hedge : edge ∈ nodeEdges (candidates detectors ⟨document, nodes⟩ other) other next?)
      : edge.source = other.id :=
    source_of_mem_nodeEdges (fun _ hfound => source_of_mem_candidates hfound) hedge
  have hfront : (edgesAfter detectors ⟨document, nodes⟩ before).toList.filter
      (fun edge => edge.source = node.id) = [] := by
    refine List.filter_eq_nil_iff.2 fun edge hedge heq => hbefore ?_
    rw [← of_decide_eq_true heq]
    exact source_mem_of_mem_edgesAfter hsplit edge (Array.mem_toList_iff.1 hedge)
  have hrun : infer detectors ⟨document, nodes⟩
      = (edgesAfter detectors ⟨document, nodes⟩ (before ++ node :: after)).toList := by
    rw [← hsplit]
    rfl
  have hown : (nodeEdges (candidates detectors ⟨document, nodes⟩ node) node after.head?).filter
      (fun edge => edge.source = node.id)
      = nodeEdges (candidates detectors ⟨document, nodes⟩ node) node after.head? :=
    List.filter_eq_self.2 fun edge hedge => decide_eq_true (hsource hedge)
  rw [hrun, toList_edgesAfter_append hsplit, withNext, List.flatMap_cons, List.filter_append,
    List.filter_append, hfront, List.nil_append, nextAfter?_eq_head? hsplit, hown,
    List.append_right_eq_self]
  -- What is left are the edges of the nodes behind.
  refine List.filter_eq_nil_iff.2 fun edge hedge heq => hafter ?_
  obtain ⟨⟨other, next?⟩, hother, hnodeEdge⟩ := List.mem_flatMap.1 hedge
  rw [← of_decide_eq_true heq, hsource hnodeEdge]
  exact List.mem_map_of_mem (mem_of_mem_withNext hother)

/-- An edge is one of those that a node has on its own. -/
theorem mem_infer_iff {edge : Edge}
    : edge ∈ infer detectors ⟨document, nodes⟩
      ↔ ∃ node ∈ nodes.nodes,
          edge
          ∈ nodeEdges (candidates detectors ⟨document, nodes⟩ node) node
              (nodes.nextAfter? node) := by
  constructor
  · intro hedge
    obtain ⟨node, hnode, hsource⟩ := exists_node_of_mem_infer hedge
    refine ⟨node, hnode, ?_⟩
    rw [← filter_source_infer hnode, List.mem_filter]
    exact ⟨hedge, decide_eq_true hsource⟩
  · rintro ⟨node, hnode, hedge⟩
    rw [← filter_source_infer hnode] at hedge
    exact (List.mem_filter.1 hedge).1

end Run

/-- An edge that a node has on its own is a candidate, or the way to the next node if there is no
candidate.
-/
theorem mem_nodeEdges_cases {found : List Edge} {node : Node} {next? : Option Node} {edge : Edge}
    (h : edge ∈ nodeEdges found node next?)
    : edge ∈ found
      ∨ found = [] ∧ ∃ next, next? = some next ∧ edge = ⟨node.id, next.id, .defaultNext⟩ := by
  cases found with
  | nil =>
      obtain ⟨next, hnext, rfl⟩ := List.mem_map.1 h
      exact Or.inr ⟨rfl, next, by simpa using hnext, rfl⟩
  | cons first rest => exact Or.inl ((firstOfEach_sublist targetKey _).mem h)

-----------------------------------------------------------------------------------------
-- What the standard detectors find
-----------------------------------------------------------------------------------------

/-- The option children of a node's element. -/
def optionChildren (conventions : Conventions) (context : Context) (node : Node)
    : List Element :=
  (context.childElements node).filter
    (isOption conventions.optionTags conventions.targetAttributes)

/-- An edge that the standard detectors find for a node, with the sign it is read from.  An option
that names no target leads to the next node, if there is one.
-/
inductive Finds (conventions : Conventions) (pattern : Pattern) (context : Context)
    (node : Node)
    : Edge → Prop
  | ownAttribute {element : Element} {found : NamedTarget}
      (located : context.element? node = some element)
      (named : found ∈ elementTargets element conventions.targetAttributes)
      : Finds conventions pattern context node
          ⟨node.id, found.target, .ownAttribute found.attributeName⟩
  | inlineMarker {element : Element} {piece : List Char}
      (located : context.element? node = some element)
      (marked : piece ∈ pattern.groupPieces 1 element.text.toList)
      : Finds conventions pattern context node ⟨node.id, ⟨String.ofList piece⟩, .inlineMarker⟩
  | childAttribute {child : Element} {found : NamedTarget}
      (option : child ∈ optionChildren conventions context node)
      (named : found ∈ elementTargets child conventions.targetAttributes)
      : Finds conventions pattern context node
          ⟨node.id, found.target, .childAttribute child.tag found.attributeName⟩
  | childNext {child : Element} {next : Node}
      (option : child ∈ optionChildren conventions context node)
      (unnamed : hasTargetValue child conventions.targetAttributes = false)
      (successor : context.nodes.nextAfter? node = some next)
      : Finds conventions pattern context node
          ⟨
            node.id,
            next.id,
            if (optionChildren conventions context node).length = 1 then .childDefaultNext
            else .childTagDefaultNext child.tag
          ⟩

theorem hasTargetValue_of_mem_elementTargets {element : Element} {names : List String}
    {found : NamedTarget} (h : found ∈ elementTargets element names)
    : hasTargetValue element names = true := by
  obtain ⟨value, hvalue, -⟩ := List.mem_flatMap.1 h
  simp [hasTargetValue, List.ne_nil_of_mem hvalue]

section Finds

variable {conventions : Conventions} {pattern : Pattern} {context : Context} {node : Node}
  {edge : Edge}

theorem mem_attributeEdges_iff {targetNames : List String}
    : edge ∈ attributeEdges targetNames context node
      ↔ ∃ element found,
          context.element? node = some element
          ∧ found ∈ elementTargets element targetNames
          ∧ edge = ⟨node.id, found.target, .ownAttribute found.attributeName⟩ := by
  unfold attributeEdges
  cases context.element? node with
  | none => simp
  | some element => simp [eq_comm]

theorem mem_inlineEdges_iff
    : edge ∈ inlineEdges pattern context node
      ↔ ∃ element piece,
          context.element? node = some element
          ∧ piece ∈ pattern.groupPieces 1 element.text.toList
          ∧ edge = ⟨node.id, ⟨String.ofList piece⟩, .inlineMarker⟩ := by
  unfold inlineEdges
  cases context.element? node with
  | none => simp
  | some element => simp [eq_comm]

theorem mem_childEdges_iff
    : edge ∈ childEdges conventions.optionTags conventions.targetAttributes context node
      ↔ ∃ child ∈ optionChildren conventions context node,
          edge
          ∈ optionEdges conventions.targetAttributes node (context.nextId? node)
              ((optionChildren conventions context node).length == 1) child := by
  simp [childEdges, optionChildren, List.mem_flatMap]

theorem mem_optionEdges_iff {child : Element} {targetNames : List String} {single : Bool}
    : edge ∈ optionEdges targetNames node (context.nextId? node) single child
      ↔ (∃ found ∈ elementTargets child targetNames,
            edge = ⟨node.id, found.target, .childAttribute child.tag found.attributeName⟩)
        ∨ hasTargetValue child targetNames = false
          ∧ ∃ next,
              context.nodes.nextAfter? node = some next
              ∧ edge
                = ⟨
                    node.id,
                    next.id,
                    if single then .childDefaultNext else .childTagDefaultNext child.tag
                  ⟩ := by
  unfold optionEdges Context.nextId?
  by_cases hvalue : hasTargetValue child targetNames = true
  · simp [hvalue, eq_comm]
  · have hnone : ∀ found, found ∉ elementTargets child targetNames := fun found hfound =>
      hvalue (hasTargetValue_of_mem_elementTargets hfound)
    cases context.nodes.nextAfter? node <;> simp [hvalue, hnone]

/-- The candidates of a node are its finds. -/
theorem mem_standardCandidates_iff
    : edge ∈ standardCandidates conventions pattern context node
      ↔ Finds conventions pattern context node edge := by
  simp only [standardCandidates, List.mem_append, mem_attributeEdges_iff, mem_inlineEdges_iff,
    mem_childEdges_iff, mem_optionEdges_iff, beq_iff_eq]
  constructor
  · rintro ((⟨element, found, located, named, rfl⟩ | ⟨element, piece, located, marked, rfl⟩)
      | ⟨child, option, ⟨found, named, rfl⟩ | ⟨unnamed, next, successor, rfl⟩⟩)
    · exact .ownAttribute located named
    · exact .inlineMarker located marked
    · exact .childAttribute option named
    · exact .childNext option unnamed successor
  · intro h
    cases h with
    | ownAttribute located named => exact Or.inl (Or.inl ⟨_, _, located, named, rfl⟩)
    | inlineMarker located marked => exact Or.inl (Or.inr ⟨_, _, located, marked, rfl⟩)
    | childAttribute option named => exact Or.inr ⟨_, option, Or.inl ⟨_, named, rfl⟩⟩
    | childNext option unnamed successor =>
        exact Or.inr ⟨_, option, Or.inr ⟨unnamed, _, successor, rfl⟩⟩

end Finds

end Inference

end StoryAtlas
