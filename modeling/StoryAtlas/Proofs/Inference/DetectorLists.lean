import StoryAtlas.Proofs.Inference.OutgoingEdges

/-! Edges found by the same detectors in another order.
The order of the detectors and their repetitions decide which of several edges with the same key is
kept, and where.  They decide neither which keys there are nor whether a node has a candidate at
all, so every list of the same detectors falls back to the next node at the same nodes.
-/

namespace StoryAtlas.Inference

-----------------------------------------------------------------------------------------
-- No edge is kept twice
-----------------------------------------------------------------------------------------

section Distinct

variable {detectors : List Detector} {context : Context}

/-- Visiting a node keeps the keys of all edges distinct. -/
theorem nodup_map_edgeKey_addNodeEdges {edges : Array Edge}
    (h : (edges.toList.map edgeKey).Nodup) (node : Node)
    : ((addNodeEdges detectors context edges node).toList.map edgeKey).Nodup := by
  have hfound
      : ((addCandidates detectors context edges node).toList.map edgeKey).Nodup := by
    rw [addCandidates, toList_foldl_addEdge]
    exact nodup_map_foldl_addFirst h _
  unfold addNodeEdges
  dsimp only
  split
  · cases context.nextId? node with
    | none => exact hfound
    | some next =>
        dsimp only
        rw [toList_addEdge]
        exact nodup_map_addFirst hfound _
  · exact hfound

/-- No two edges of a story have the same key, by induction on the visited nodes. -/
theorem nodup_map_edgeKey_infer : ((infer detectors context).map edgeKey).Nodup := by
  have hrun (nodes : List Node) {edges : Array Edge} (h : (edges.toList.map edgeKey).Nodup)
      : ((nodes.foldl (addNodeEdges detectors context) edges).toList.map edgeKey).Nodup := by
    induction nodes generalizing edges with
    | nil => exact h
    | cons node rest ih => exact ih (nodup_map_edgeKey_addNodeEdges h node)
  exact hrun context.nodes.nodes List.nodup_nil

end Distinct

-----------------------------------------------------------------------------------------
-- Candidates are no fallbacks of their node
-----------------------------------------------------------------------------------------

theorem relation_ne_of_mem_optionEdges {targetNames : List String} {node : Node}
    {next? : Option Id} {single : Bool} {child : Element} {edge : Edge}
    (h : edge ∈ optionEdges targetNames node next? single child)
    : edge.relation ≠ .defaultNext := by
  unfold optionEdges at h
  split at h
  · obtain ⟨found, -, rfl⟩ := List.mem_map.1 h
    simp
  · split at h
    · cases h
    · rw [List.mem_singleton.1 h]
      cases single <;> simp

/-- No detector gives the way to the next node that is left for nodes without any candidate, by
cases on the detector.
-/
theorem Detector.relation_ne_of_mem_detect {detector : Detector} {context : Context} {node : Node}
    {edge : Edge} (h : edge ∈ detector.detect context node)
    : edge.relation ≠ .defaultNext := by
  cases detector with
  | targetAttribute targetNames =>
      obtain ⟨element, found, -, -, rfl⟩ := mem_attributeEdges_iff.1 h
      simp
  | inlineMarker pattern =>
      obtain ⟨element, piece, -, -, rfl⟩ := mem_inlineEdges_iff.1 h
      simp
  | optionChild optionTags targetNames =>
      obtain ⟨child, -, hchild⟩ := List.mem_flatMap.1 h
      exact relation_ne_of_mem_optionEdges hchild

theorem relation_ne_of_mem_candidates {detectors : List Detector} {context : Context}
    {node : Node} {edge : Edge} (h : edge ∈ candidates detectors context node)
    : edge.relation ≠ .defaultNext := by
  obtain ⟨detector, -, hedge⟩ := List.mem_flatMap.1 h
  exact detector.relation_ne_of_mem_detect hedge

/-- The fallback among the edges of a node: the way to the next one if there is no candidate. -/
theorem filter_defaultNext_nodeEdges {detectors : List Detector} {context : Context} {node : Node}
    {next? : Option Node}
    : (nodeEdges (candidates detectors context node) node next?).filter
          (fun edge => edge.relation = .defaultNext)
        = if candidates detectors context node = [] then nodeEdges [] node next? else [] := by
  have hfound := fun edge => @relation_ne_of_mem_candidates detectors context node edge
  cases hcandidates : candidates detectors context node with
  | nil =>
      rw [if_pos rfl]
      cases next? <;> rfl
  | cons first rest =>
      rw [if_neg (List.cons_ne_nil first rest), List.filter_eq_nil_iff]
      intro edge hedge
      have hmem := (firstOfEach_sublist targetKey (first :: rest)).mem hedge
      simpa using hfound edge (hcandidates ▸ hmem)

-----------------------------------------------------------------------------------------
-- Lists of the same detectors
-----------------------------------------------------------------------------------------

/-- The keys of the edges of a node: those of its candidates or, without any, that of the way to
the next node.
-/
theorem mem_map_edgeKey_nodeEdges_iff {detectors : List Detector} {context : Context}
    {node : Node} {next? : Option Node} {key : Id × Id × String}
    : key ∈ (nodeEdges (candidates detectors context node) node next?).map edgeKey
        ↔ key ∈ (candidates detectors context node).map edgeKey
          ∨ candidates detectors context node = []
            ∧ key ∈ (nodeEdges [] node next?).map edgeKey := by
  have hfirst := firstOfEach_candidates detectors context node
  cases hcandidates : candidates detectors context node with
  | nil => simp
  | cons first rest =>
      rw [hcandidates] at hfirst
      have hkept : nodeEdges (first :: rest) node next? = firstOfEach edgeKey (first :: rest) :=
        hfirst.symm
      rw [hkept, mem_map_firstOfEach_iff]
      simp

section SameDetectors

variable {left right : List Detector} {context : Context} {node : Node} {next? : Option Node}

theorem mem_candidates_congr (same : ∀ detector, detector ∈ left ↔ detector ∈ right)
    {edge : Edge}
    : edge ∈ candidates left context node ↔ edge ∈ candidates right context node := by
  simp only [candidates, List.mem_flatMap, same]

theorem candidates_eq_nil_congr (same : ∀ detector, detector ∈ left ↔ detector ∈ right)
    : candidates left context node = [] ↔ candidates right context node = [] := by
  simp only [List.eq_nil_iff_forall_not_mem, mem_candidates_congr same]

/-- The edges of a node have the same keys. -/
theorem mem_map_edgeKey_nodeEdges_congr (same : ∀ detector, detector ∈ left ↔ detector ∈ right)
    {key : Id × Id × String}
    : key ∈ (nodeEdges (candidates left context node) node next?).map edgeKey
        ↔ key ∈ (nodeEdges (candidates right context node) node next?).map edgeKey := by
  rw [mem_map_edgeKey_nodeEdges_iff, mem_map_edgeKey_nodeEdges_iff, candidates_eq_nil_congr same]
  refine or_congr ?_ Iff.rfl
  simp only [List.mem_map, mem_candidates_congr same]

/-- A detector that has run already changes no edges of a node. -/
theorem nodeEdges_candidates_concat {detector : Detector} (h : detector ∈ left)
    : nodeEdges (candidates (left ++ [detector]) context node) node next?
        = nodeEdges (candidates left context node) node next? := by
  have hagain : ∀ edge ∈ detector.detect context node, edge ∈ candidates left context node :=
    fun edge hedge => List.mem_flatMap.2 ⟨detector, h, hedge⟩
  have hmore
      : candidates (left ++ [detector]) context node
        = candidates left context node ++ detector.detect context node := by
    simp [candidates]
  rw [hmore]
  cases hcandidates : candidates left context node with
  | nil =>
      rw [hcandidates] at hagain
      rw [List.eq_nil_iff_forall_not_mem.2 fun edge hedge =>
        List.not_mem_nil (hagain edge hedge), List.append_nil]
  | cons first rest =>
      rw [hcandidates] at hagain
      exact firstOfEach_append_of_mem fun edge hedge => List.mem_map_of_mem (hagain edge hedge)

end SameDetectors

/-- Two lists of the same detectors, in any order and with any repetitions, give the same keys,
none of them twice, and the same ways to the next node for nodes without a candidate.  A detector
that is in the list already changes nothing behind it.
-/
theorem infer_of_same_detectors {left right : List Detector}
    (same : ∀ detector, detector ∈ left ↔ detector ∈ right) (context : Context)
    : ((infer left context).map edgeKey).Nodup
      ∧ ((infer left context).map edgeKey).Perm ((infer right context).map edgeKey)
      ∧ (infer left context).filter (fun edge => edge.relation = .defaultNext)
        = (infer right context).filter (fun edge => edge.relation = .defaultNext)
      ∧ ∀ detector ∈ left, infer (left ++ [detector]) context = infer left context := by
  obtain ⟨document, nodes⟩ := context
  refine ⟨nodup_map_edgeKey_infer, ?_, ?_, ?_⟩
  · refine (List.perm_ext_iff_of_nodup nodup_map_edgeKey_infer nodup_map_edgeKey_infer).2 ?_
    intro key
    simp only [infer_eq_flatMap, List.map_flatMap, List.mem_flatMap,
      mem_map_edgeKey_nodeEdges_congr same]
  · simp only [infer_eq_flatMap, List.filter_flatMap, filter_defaultNext_nodeEdges,
      candidates_eq_nil_congr same]
  · intro detector hdetector
    simp only [infer_eq_flatMap, nodeEdges_candidates_concat hdetector]

/-- A scene with a target, a marker and an option, in front of another scene. -/
def Context.twoScenes : Context where
  document :=
    let scene := (Document.new "scene" (.ofList [("goto", "end")])).appendText 0 "->end"
    (scene.addChild 0 "choice" .empty).1
  nodes := (Registry.empty.register ⟨"start"⟩ "" "scene" 0).register ⟨"end"⟩ "" "scene" 1

/-- The standard detectors, and a list that begins with the options and looks for markers twice. -/
theorem infer_of_same_detectors_of_two_scenes
    : ∃ pattern,
        Conventions.arrowMarkers.pattern = .ok pattern
        ∧ (∀ detector,
            detector ∈ Conventions.arrowMarkers.detectorsWith pattern
              ↔ detector
                ∈ [Conventions.arrowMarkers.optionDetector, .inlineMarker pattern,
                    Conventions.arrowMarkers.targetDetector, .inlineMarker pattern])
        ∧ ((infer (Conventions.arrowMarkers.detectorsWith pattern) .twoScenes).map edgeKey).Perm
            ((infer
                [Conventions.arrowMarkers.optionDetector, .inlineMarker pattern,
                  Conventions.arrowMarkers.targetDetector, .inlineMarker pattern]
                .twoScenes).map
              edgeKey) := by
  obtain ⟨pattern, usable⟩ := Conventions.pattern_arrowMarkers
  have same
      : ∀ detector,
          detector ∈ Conventions.arrowMarkers.detectorsWith pattern
            ↔ detector
              ∈ [Conventions.arrowMarkers.optionDetector, .inlineMarker pattern,
                  Conventions.arrowMarkers.targetDetector, .inlineMarker pattern] := by
    intro detector
    simp only [Conventions.detectorsWith, List.mem_cons, List.not_mem_nil]
    tauto
  exact ⟨pattern, usable, same, (infer_of_same_detectors same .twoScenes).2.1⟩

end StoryAtlas.Inference
