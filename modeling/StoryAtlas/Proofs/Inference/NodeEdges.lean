import Mathlib.Data.List.Induction
import Mathlib.Data.List.Nodup
import StoryAtlas.Proofs.Registry.Registrations
import StoryAtlas.Proofs.Story.Building

/-! The edges of a story, node by node.
Inference goes through the nodes with one store of all edges kept so far.  Every detector gives
edges that leave the node it looks at and nodes have distinct identifiers, so the edges in the
store never decide about those of the node in turn, and the result is the concatenation of what
each node gives on its own.
-/

namespace StoryAtlas.Inference

-----------------------------------------------------------------------------------------
-- What tells two edges apart
-----------------------------------------------------------------------------------------

/-- The ends and the relation text of an edge. -/
def edgeKey (edge : Edge) : Id × Id × String :=
  (edge.source, edge.target, edge.relation.text)

/-- What tells apart two edges that leave the same node. -/
def targetKey (edge : Edge) : Id × String :=
  (edge.target, edge.relation.text)

theorem sameEdge_iff {left right : Edge}
    : sameEdge left right = true ↔ edgeKey left = edgeKey right := by
  simp [sameEdge, edgeKey, and_assoc]

theorem any_sameEdge_iff {edges : Array Edge} {edge : Edge}
    : edges.any (sameEdge edge) = true ↔ edgeKey edge ∈ edges.toList.map edgeKey := by
  rw [← Array.any_toList, List.any_eq_true, List.mem_map]
  simp only [sameEdge_iff, eq_comm (a := edgeKey edge)]

theorem toList_addEdge (edges : Array Edge) (edge : Edge)
    : (addEdge edges edge).toList = addFirst edgeKey edges.toList edge := by
  unfold addEdge addFirst
  by_cases h : edgeKey edge ∈ edges.toList.map edgeKey
  · rw [if_pos h, if_pos (any_sameEdge_iff.2 h)]
  · rw [if_neg h, if_neg (mt any_sameEdge_iff.1 h), Array.toList_push]

theorem toList_foldl_addEdge (found : List Edge) (edges : Array Edge)
    : (found.foldl addEdge edges).toList = found.foldl (addFirst edgeKey) edges.toList := by
  induction found generalizing edges with
  | nil => rfl
  | cons edge rest ih =>
      rw [List.foldl_cons, List.foldl_cons, ih, toList_addEdge]

-----------------------------------------------------------------------------------------
-- Detectors look at one node
-----------------------------------------------------------------------------------------

theorem source_of_mem_optionEdges {targetNames : List String} {node : Node} {next? : Option Id}
    {single : Bool} {child : Element} {edge : Edge}
    (h : edge ∈ optionEdges targetNames node next? single child)
    : edge.source = node.id := by
  unfold optionEdges at h
  split at h
  · obtain ⟨found, -, rfl⟩ := List.mem_map.1 h
    rfl
  · split at h
    · simp at h
    · rw [List.mem_singleton.1 h]

/-- An edge that a detector gives leaves the node it looks at, by cases on the detector. -/
theorem Detector.source_of_mem_detect {detector : Detector} {context : Context} {node : Node}
    {edge : Edge} (h : edge ∈ detector.detect context node)
    : edge.source = node.id := by
  cases detector with
  | targetAttribute targetNames =>
      simp only [detect, attributeEdges] at h
      split at h
      · simp at h
      · obtain ⟨found, -, rfl⟩ := List.mem_map.1 h
        rfl
  | inlineMarker pattern =>
      simp only [detect, inlineEdges] at h
      split at h
      · simp at h
      · obtain ⟨target, -, rfl⟩ := List.mem_map.1 h
        rfl
  | optionChild optionTags targetNames =>
      simp only [detect, childEdges] at h
      obtain ⟨child, -, hchild⟩ := List.mem_flatMap.1 h
      exact source_of_mem_optionEdges hchild

theorem source_of_mem_candidates {detectors : List Detector} {context : Context} {node : Node}
    {edge : Edge} (h : edge ∈ candidates detectors context node)
    : edge.source = node.id := by
  obtain ⟨detector, -, hedge⟩ := List.mem_flatMap.1 h
  exact detector.source_of_mem_detect hedge

/-- Among the candidates of a node, target and relation text tell edges apart. -/
theorem firstOfEach_candidates (detectors : List Detector) (context : Context) (node : Node)
    : firstOfEach edgeKey (candidates detectors context node)
      = firstOfEach targetKey (candidates detectors context node) := by
  refine firstOfEach_congr fun a ha b hb => ?_
  simp [edgeKey, targetKey, source_of_mem_candidates ha, source_of_mem_candidates hb]

-----------------------------------------------------------------------------------------
-- One node
-----------------------------------------------------------------------------------------

/-- The edges of a node, from its candidates and the node behind it: the first candidate of each
target and relation text, or the way to the next node if there is no candidate. -/
def nodeEdges (found : List Edge) (node : Node) (next? : Option Node) : List Edge :=
  match found with
  | [] => next?.toList.map fun next => ⟨node.id, next.id, .defaultNext⟩
  | _ :: _ => firstOfEach targetKey found

theorem source_of_mem_nodeEdges {found : List Edge} {node : Node} {next? : Option Node}
    (hfound : ∀ edge ∈ found, edge.source = node.id) {edge : Edge}
    (h : edge ∈ nodeEdges found node next?)
    : edge.source = node.id := by
  cases found with
  | nil =>
      obtain ⟨next, -, rfl⟩ := List.mem_map.1 h
      rfl
  | cons first rest => exact hfound edge ((firstOfEach_sublist targetKey _).mem h)

/-- The store holds no edge that leaves a node. -/
def Unvisited (edges : Array Edge) (node : Node) : Prop :=
  ∀ edge ∈ edges, edge.source ≠ node.id

section Visit

variable {detectors : List Detector} {context : Context} {edges : Array Edge} {node : Node}

/-- An edge that leaves an unvisited node is not in the store, nor is one like it. -/
theorem Unvisited.key_not_mem (h : Unvisited edges node) {edge : Edge}
    (hsource : edge.source = node.id)
    : edgeKey edge ∉ edges.toList.map edgeKey := by
  intro hmem
  obtain ⟨earlier, hearlier, hkey⟩ := List.mem_map.1 hmem
  refine h earlier (Array.mem_toList_iff.1 hearlier) ?_
  rw [← hsource]
  exact congrArg Prod.fst hkey

/-- The store takes the first of each candidate of an unvisited node. -/
theorem toList_addCandidates (h : Unvisited edges node)
    : (addCandidates detectors context edges node).toList
      = edges.toList ++ firstOfEach targetKey (candidates detectors context node) := by
  rw [addCandidates, toList_foldl_addEdge, foldl_addFirst, firstOfEach_candidates]
  congr 1
  refine List.filter_eq_self.2 fun edge hedge => ?_
  have hmem := (firstOfEach_sublist targetKey _).mem hedge
  simpa using h.key_not_mem (source_of_mem_candidates hmem)

/-- The store does not grow exactly when an unvisited node has no candidate. -/
theorem size_addCandidates_eq_iff (h : Unvisited edges node)
    : (addCandidates detectors context edges node).size = edges.size
      ↔ candidates detectors context node = [] := by
  rw [← Array.length_toList, toList_addCandidates h, List.length_append, Array.length_toList,
    ← @firstOfEach_eq_nil_iff _ _ _ targetKey, ← List.length_eq_zero_iff]
  omega

/-- The store takes the edges that an unvisited node has on its own. -/
theorem toList_addNodeEdges (h : Unvisited edges node)
    : (addNodeEdges detectors context edges node).toList
      = edges.toList
        ++ nodeEdges (candidates detectors context node) node
          (context.nodes.nextAfter? node) := by
  have hadded : (addCandidates detectors context edges node).toList
      = edges.toList ++ firstOfEach targetKey (candidates detectors context node) :=
    toList_addCandidates h
  simp only [addNodeEdges, size_addCandidates_eq_iff h, Context.nextId?]
  cases hfound : candidates detectors context node with
  | nil =>
      rw [hfound] at hadded
      have hsame : addCandidates detectors context edges node = edges :=
        Array.toList_inj.1 (by simpa [firstOfEach] using hadded)
      rw [hsame, if_pos rfl]
      cases context.nodes.nextAfter? node with
      | none => simp [nodeEdges]
      | some next =>
          have hnew := @Unvisited.key_not_mem _ _ h ⟨node.id, next.id, .defaultNext⟩ rfl
          simp only [Option.map_some, nodeEdges, Option.toList_some, List.map_singleton]
          rw [toList_addEdge, addFirst, if_neg hnew]
  | cons first rest =>
      rw [if_neg (List.cons_ne_nil first rest), hadded, hfound]
      rfl

end Visit

-----------------------------------------------------------------------------------------
-- All nodes
-----------------------------------------------------------------------------------------

/-- The nodes of a list, each with the one behind it. -/
def withNext : List Node → List (Node × Option Node)
  | [] => []
  | node :: rest => (node, rest.head?) :: withNext rest

/-- The node behind another in a registry is the one behind it in the list of nodes.
Witness: the order of a node is its position.
-/
theorem nextAfter?_eq_head? {nodes : Registry} {before after : List Node} {node : Node}
    (h : nodes.nodes = before ++ node :: after)
    : nodes.nextAfter? node = after.head? := by
  have hget : nodes.nodes[before.length]? = some node := by simp [h]
  rw [Registry.nextAfter?, Registry.order_eq_of_getElem? hget, h,
    List.getElem?_append_right (Nat.le_succ _)]
  simp [List.head?_eq_getElem?]

/-- The store of edges when the nodes in front have been visited. -/
def edgesAfter (detectors : List Detector) (context : Context) (visited : List Node)
    : Array Edge :=
  visited.foldl (addNodeEdges detectors context) #[]

theorem edgesAfter_concat (detectors : List Detector) (context : Context) (visited : List Node)
    (node : Node)
    : edgesAfter detectors context (visited ++ [node])
      = addNodeEdges detectors context (edgesAfter detectors context visited) node := by
  simp [edgesAfter]

section Run

variable {detectors : List Detector} {document : Document} {nodes : Registry}

theorem unvisited_of_sources {edges : Array Edge} {before after : List Node} {node : Node}
    (h : nodes.nodes = before ++ node :: after)
    (hsources : ∀ edge ∈ edges, edge.source ∈ before.map Node.id)
    : Unvisited edges node := by
  intro edge hedge heq
  have hdistinct := nodes.distinct
  rw [h, List.map_append, List.map_cons, List.nodup_middle, List.nodup_cons] at hdistinct
  exact hdistinct.1 (List.mem_append_left _ (heq ▸ hsources edge hedge))

/-- Every kept edge leaves a visited node, by induction on the visited nodes with the last one
taken off: it was unvisited in its turn, so the store took its own edges only.
-/
theorem source_mem_of_mem_edgesAfter {before after : List Node}
    (h : nodes.nodes = before ++ after)
    : ∀ edge ∈ edgesAfter detectors ⟨document, nodes⟩ before,
        edge.source ∈ before.map Node.id := by
  induction before using List.reverseRecOn generalizing after with
  | nil => simp [edgesAfter]
  | append_singleton visited node ih =>
      have hsplit : nodes.nodes = visited ++ node :: after := by simpa using h
      have hsources := ih hsplit
      intro edge hedge
      rw [edgesAfter_concat, ← Array.mem_toList_iff,
        toList_addNodeEdges (unvisited_of_sources hsplit hsources), List.mem_append] at hedge
      rw [List.map_append, List.mem_append]
      rcases hedge with hold | hnew
      · exact Or.inl (hsources edge (Array.mem_toList_iff.1 hold))
      · have hsource := source_of_mem_nodeEdges (fun _ hmem => source_of_mem_candidates hmem) hnew
        exact Or.inr (by simp [hsource])

theorem unvisited_edgesAfter {before after : List Node} {node : Node}
    (h : nodes.nodes = before ++ node :: after)
    : Unvisited (edgesAfter detectors ⟨document, nodes⟩ before) node :=
  unvisited_of_sources h (source_mem_of_mem_edgesAfter h)

/-- Visiting the nodes behind some others appends the edges that each of them has on its own, by
induction on the nodes to come.
-/
theorem toList_edgesAfter_append {before after : List Node}
    (h : nodes.nodes = before ++ after)
    : (edgesAfter detectors ⟨document, nodes⟩ (before ++ after)).toList
      = (edgesAfter detectors ⟨document, nodes⟩ before).toList
        ++ (withNext after).flatMap fun (node, next?) =>
            nodeEdges (candidates detectors ⟨document, nodes⟩ node) node next? := by
  induction after generalizing before with
  | nil => simp [withNext]
  | cons node rest ih =>
      have hsplit : nodes.nodes = (before ++ [node]) ++ rest := by simpa using h
      have hmove : before ++ node :: rest = (before ++ [node]) ++ rest := by simp
      rw [hmove, ih hsplit, edgesAfter_concat, toList_addNodeEdges (unvisited_edgesAfter h),
        nextAfter?_eq_head? h, withNext, List.flatMap_cons, List.append_assoc]

/-- The edges of a story are those that each node has on its own, in the order of the nodes. -/
theorem infer_eq_flatMap (detectors : List Detector) (document : Document) (nodes : Registry)
    : infer detectors ⟨document, nodes⟩
      = (withNext nodes.nodes).flatMap fun (node, next?) =>
          nodeEdges (candidates detectors ⟨document, nodes⟩ node) node next? := by
  have hrun := @toList_edgesAfter_append detectors document nodes [] _ (List.nil_append _).symm
  simpa [edgesAfter, infer] using hrun

end Run

-----------------------------------------------------------------------------------------
-- The standard detectors
-----------------------------------------------------------------------------------------

/-- What the standard detectors find for a node: targets of its own attributes, then those of
markers in its text, then those of its options. -/
def standardCandidates (conventions : Conventions) (pattern : Pattern) (context : Context)
    (node : Node)
    : List Edge :=
  attributeEdges conventions.targetAttributes context node
    ++ inlineEdges pattern context node
    ++ childEdges conventions.optionTags conventions.targetAttributes context node

theorem candidates_detectorsWith (conventions : Conventions) (pattern : Pattern)
    (context : Context) (node : Node)
    : candidates (conventions.detectorsWith pattern) context node
      = standardCandidates conventions pattern context node := by
  simp [candidates, standardCandidates, Conventions.detectorsWith, Detector.detect,
    Conventions.targetDetector, Conventions.optionDetector]

/-- With a usable pattern, the edges of any document and registry are the concatenation of what
each node has on its own.  When a node is visited, no edge kept before is like one of its
candidates, and the store stays as it is exactly when the node has no candidate.
-/
theorem infer_standard_eq_flatMap (conventions : Conventions) (pattern : Pattern)
    (usable : conventions.pattern = .ok pattern) (document : Document) (nodes : Registry)
    : conventions.detectors = .ok (conventions.detectorsWith pattern)
      ∧ infer (conventions.detectorsWith pattern) ⟨document, nodes⟩
        = (withNext nodes.nodes).flatMap (fun (node, next?) =>
            nodeEdges (standardCandidates conventions pattern ⟨document, nodes⟩ node) node next?)
      ∧ ∀ before node after,
          nodes.nodes = before ++ node :: after
          → (∀ edge ∈ standardCandidates conventions pattern ⟨document, nodes⟩ node,
              (edgesAfter (conventions.detectorsWith pattern) ⟨document, nodes⟩ before).any
                  (sameEdge edge)
                = false)
            ∧ ((addCandidates (conventions.detectorsWith pattern) ⟨document, nodes⟩
                  (edgesAfter (conventions.detectorsWith pattern) ⟨document, nodes⟩ before)
                  node).size
                = (edgesAfter (conventions.detectorsWith pattern) ⟨document, nodes⟩ before).size
              ↔ standardCandidates conventions pattern ⟨document, nodes⟩ node = []) := by
  refine ⟨Conventions.detectors_of_pattern usable, ?_, ?_⟩
  · simp only [infer_eq_flatMap, candidates_detectorsWith]
  · intro before node after hsplit
    have hunvisited := @unvisited_edgesAfter (conventions.detectorsWith pattern) document
      _ _ _ _ hsplit
    refine ⟨?_, by rw [size_addCandidates_eq_iff hunvisited, candidates_detectorsWith]⟩
    intro edge hedge
    rw [← candidates_detectorsWith] at hedge
    have hnew := hunvisited.key_not_mem (source_of_mem_candidates hedge)
    exact Bool.eq_false_iff.2 (mt any_sameEdge_iff.1 hnew)

/-- A root that names one target twice, registered in front of another node. -/
theorem infer_standard_eq_flatMap_of_two_nodes
    : ∃ pattern,
        Conventions.arrowMarkers.pattern = .ok pattern
        ∧ infer (Conventions.arrowMarkers.detectorsWith pattern)
              ⟨.new "story" (.ofList [("goto", "end end")]),
                (Registry.empty.register ⟨"start"⟩ "" "story" 0).register ⟨"end"⟩ "" "story" 0⟩
          = (withNext
              ((Registry.empty.register ⟨"start"⟩ "" "story" 0).register ⟨"end"⟩ "" "story"
                0).nodes).flatMap
              (fun (node, next?) =>
                nodeEdges
                  (standardCandidates Conventions.arrowMarkers pattern
                    ⟨.new "story" (.ofList [("goto", "end end")]),
                      (Registry.empty.register ⟨"start"⟩ "" "story" 0).register ⟨"end"⟩ ""
                        "story" 0⟩ node)
                  node next?) := by
  obtain ⟨pattern, usable⟩ := Conventions.pattern_arrowMarkers
  exact ⟨pattern, usable, (infer_standard_eq_flatMap _ pattern usable _ _).2.1⟩

end StoryAtlas.Inference
