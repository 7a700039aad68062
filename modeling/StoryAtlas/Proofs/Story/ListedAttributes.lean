import StoryAtlas.Proofs.Document.Agreement
import StoryAtlas.Proofs.Inference.NodeEdges
import StoryAtlas.Proofs.Story.Nodes
import StoryAtlas.Render.Html

/-! The attributes that a graph depends on.
Nodes, labels and edges are found by the values of attributes that the conventions list, so two
documents that agree on these have the same graph.  The stages are followed one by one: what they
read of an element is the same in both documents, and hence what they make of it.
-/

namespace StoryAtlas

-----------------------------------------------------------------------------------------
-- Identifiers and labels
-----------------------------------------------------------------------------------------

namespace Conventions

variable {conventions : Conventions} {element other : Element}

/-- The names of attributes that the conventions look at. -/
def listedAttributes (conventions : Conventions) : List String :=
  conventions.idAttributes ++ conventions.labelAttributes ++ conventions.targetAttributes

theorem idAttributes_subset (conventions : Conventions)
    : conventions.idAttributes ⊆ conventions.listedAttributes :=
  fun name hname => by simp [listedAttributes, hname]

theorem labelAttributes_subset (conventions : Conventions)
    : conventions.labelAttributes ⊆ conventions.listedAttributes :=
  fun name hname => by simp [listedAttributes, hname]

theorem targetAttributes_subset (conventions : Conventions)
    : conventions.targetAttributes ⊆ conventions.listedAttributes :=
  fun name hname => by simp [listedAttributes, hname]

theorem firstPresent?_congr {names : List String}
    (h : element.attributes.AgreeOn names other.attributes)
    : firstPresent? other names = firstPresent? element names := by
  rw [firstPresent?, firstPresent?, List.filterMap_congr h]

theorem findId?_congr (h : element.AgreeOn conventions.listedAttributes other)
    : conventions.findId? other = conventions.findId? element := by
  rw [findId?, findId?, firstPresent?_congr (h.attributes.mono conventions.idAttributes_subset)]

theorem labelFor_congr (h : element.AgreeOn conventions.listedAttributes other)
    (fallback : Option String)
    : conventions.labelFor other fallback = conventions.labelFor element fallback := by
  have hvalue := firstPresent?_congr (h.attributes.mono conventions.labelAttributes_subset)
  unfold labelFor
  rw [hvalue, h.text, h.tag]

end Conventions

-----------------------------------------------------------------------------------------
-- Nodes
-----------------------------------------------------------------------------------------

namespace Conventions

variable {conventions : Conventions} {document other : Document}

theorem collectElement_congr (registry : Registry) (id : ElementId) {element other : Element}
    (h : element.AgreeOn conventions.listedAttributes other)
    : conventions.collectElement registry (id, other)
      = conventions.collectElement registry (id, element) := by
  simp only [collectElement, findId?_congr h, labelFor_congr h, h.tag]

theorem collect_congr (h : document.AgreeOn conventions.listedAttributes other)
    : conventions.collect other = conventions.collect document := by
  refine (List.rel_foldl ?_ rfl h.forall₂_inOrder).symm
  rintro registry _ rfl ⟨id, element⟩ ⟨_, otherElement⟩ ⟨rfl, helement⟩
  exact (collectElement_congr registry _ helement).symm

theorem synthesizeChild_congr (h : document.AgreeOn conventions.listedAttributes other)
    : conventions.synthesizeChild other = conventions.synthesizeChild document := by
  funext registry child
  unfold synthesizeChild
  rcases h.element?_cases child.1 with ⟨hnone, hother⟩ | ⟨element, _, hsome, hother, hagree⟩
  · rw [hnone, hother]
  · simp only [hsome, hother, labelFor_congr hagree, hagree.tag]

theorem nodesOf_congr (h : document.AgreeOn conventions.listedAttributes other)
    : conventions.nodesOf other = conventions.nodesOf document := by
  have hsynthesize : conventions.synthesize other = conventions.synthesize document := by
    rw [synthesize, synthesize, children_rootElement, children_rootElement, h.children_eq,
      synthesizeChild_congr h]
  rw [nodesOf, nodesOf, collect_congr h, hsynthesize]

end Conventions

-----------------------------------------------------------------------------------------
-- Edges
-----------------------------------------------------------------------------------------

namespace Inference

section Targets

variable {names targetNames : List String} {element other : Element}

theorem targetValues_congr (h : element.attributes.AgreeOn targetNames other.attributes)
    : targetValues other targetNames = targetValues element targetNames :=
  List.filterMap_congr fun name hname => by rw [h name hname]

theorem elementTargets_congr (h : element.attributes.AgreeOn targetNames other.attributes)
    : elementTargets other targetNames = elementTargets element targetNames := by
  rw [elementTargets, elementTargets, targetValues_congr h]

theorem isOption_congr (optionTags : List String) (hsub : targetNames ⊆ names)
    (h : element.AgreeOn names other)
    : isOption optionTags targetNames other = isOption optionTags targetNames element := by
  have hany
      : targetNames.any other.attributes.contains
        = targetNames.any element.attributes.contains := by
    rw [Bool.eq_iff_iff, List.any_eq_true, List.any_eq_true]
    refine exists_congr fun name => and_congr_right fun hname => ?_
    rw [Attributes.contains, Attributes.contains, h.attributes name (hsub hname)]
  rw [isOption, isOption, h.tag, hany]

theorem optionEdges_congr (hsub : targetNames ⊆ names) (node : Node) (next? : Option Id)
    (single : Bool) (h : element.AgreeOn names other)
    : optionEdges targetNames node next? single other
      = optionEdges targetNames node next? single element := by
  have hvalues := h.attributes.mono hsub
  unfold optionEdges hasTargetValue
  rw [targetValues_congr hvalues, elementTargets_congr hvalues, h.tag]

end Targets

/-- The attributes that a detector looks at. -/
def Detector.attributeNames : Detector → List String
  | targetAttribute targetNames => targetNames
  | inlineMarker _ => []
  | optionChild _ targetNames => targetNames

section Detectors

variable {names : List String} {document other : Document} {nodes : Registry} {node : Node}

theorem attributeEdges_congr {targetNames : List String} (hsub : targetNames ⊆ names)
    (h : document.AgreeOn names other)
    : attributeEdges targetNames ⟨other, nodes⟩ node
      = attributeEdges targetNames ⟨document, nodes⟩ node := by
  unfold attributeEdges Context.element?
  rcases h.element?_cases node.element with ⟨hnone, hother⟩ | ⟨_, _, hsome, hother, hagree⟩
  · simp only [hnone, hother]
  · simp only [hsome, hother, elementTargets_congr (hagree.attributes.mono hsub)]

theorem inlineEdges_congr (pattern : Pattern) (h : document.AgreeOn names other)
    : inlineEdges pattern ⟨other, nodes⟩ node = inlineEdges pattern ⟨document, nodes⟩ node := by
  unfold inlineEdges Context.element?
  rcases h.element?_cases node.element with ⟨hnone, hother⟩ | ⟨_, _, hsome, hother, hagree⟩
  · simp only [hnone, hother]
  · simp only [hsome, hother, hagree.text]

/-- The options among the children of a node are the same ones. -/
theorem forall₂_options (optionTags : List String) {targetNames : List String}
    (hsub : targetNames ⊆ names) (h : document.AgreeOn names other)
    : List.Forall₂ (Element.AgreeOn names)
        ((Context.childElements ⟨document, nodes⟩ node).filter (isOption optionTags targetNames))
        ((Context.childElements ⟨other, nodes⟩ node).filter (isOption optionTags targetNames)) := by
  unfold Context.childElements
  rw [h.children_eq]
  refine List.rel_filter ?_ (h.forall₂_filterMap_element? _)
  intro child otherChild hchild
  simp only [isOption_congr optionTags hsub hchild]

theorem childEdges_congr {optionTags targetNames : List String} (hsub : targetNames ⊆ names)
    (h : document.AgreeOn names other)
    : childEdges optionTags targetNames ⟨other, nodes⟩ node
      = childEdges optionTags targetNames ⟨document, nodes⟩ node := by
  have hoptions := @forall₂_options _ _ _ nodes node optionTags _ hsub h
  simp only [childEdges, Context.nextId?, ← hoptions.length_eq]
  refine ((congrFun₂ List.forall₂_eq_eq_eq _ _).mp (List.rel_flatMap hoptions ?_)).symm
  intro child otherChild hchild
  rw [optionEdges_congr hsub node _ _ hchild]
  exact List.forall₂_same.2 fun _ _ => rfl

/-- A detector finds the same edges in documents that agree on the attributes it looks at, by
cases on the detector.
-/
theorem Detector.detect_congr {detector : Detector} (hsub : detector.attributeNames ⊆ names)
    (h : document.AgreeOn names other)
    : detector.detect ⟨other, nodes⟩ node = detector.detect ⟨document, nodes⟩ node := by
  cases detector with
  | targetAttribute targetNames => exact attributeEdges_congr hsub h
  | inlineMarker pattern => exact inlineEdges_congr pattern h
  | optionChild optionTags targetNames => exact childEdges_congr hsub h

theorem infer_congr {detectors : List Detector}
    (hsub : ∀ detector ∈ detectors, detector.attributeNames ⊆ names)
    (h : document.AgreeOn names other)
    : infer detectors ⟨other, nodes⟩ = infer detectors ⟨document, nodes⟩ := by
  have hcandidates (node : Node)
      : candidates detectors ⟨other, nodes⟩ node
        = candidates detectors ⟨document, nodes⟩ node :=
    List.flatMap_congr fun detector hdetector => detector.detect_congr (hsub detector hdetector) h
  simp only [infer_eq_flatMap, hcandidates]

end Detectors

end Inference

theorem Conventions.attributeNames_subset {conventions : Conventions} {pattern : Pattern}
    {detector : Inference.Detector} (h : detector ∈ conventions.detectorsWith pattern)
    : detector.attributeNames ⊆ conventions.listedAttributes := by
  simp only [detectorsWith, List.mem_cons, List.not_mem_nil, or_false] at h
  rcases h with rfl | rfl | rfl
  · exact conventions.targetAttributes_subset
  · exact List.nil_subset _
  · exact conventions.targetAttributes_subset

-----------------------------------------------------------------------------------------
-- Graphs
-----------------------------------------------------------------------------------------

theorem Settings.buildGraph_congr {settings : Settings} {document other : Document}
    (h : document.AgreeOn settings.conventions.listedAttributes other)
    : settings.buildGraph other = settings.buildGraph document := by
  cases hpattern : settings.conventions.pattern with
  | error fault =>
      simp only [buildGraph, Conventions.detectors, hpattern]
      rfl
  | ok pattern =>
      rw [buildGraph_of_pattern hpattern, buildGraph_of_pattern hpattern,
        Conventions.nodesOf_congr h,
        Inference.infer_congr (fun _ => Conventions.attributeNames_subset) h]

/-- Documents that agree on the listed attributes have the same graph, or fail alike.  So a graph
and what is written of it stay the same when every element keeps its entries with listed names up
to their order, whatever other entries it gets or loses.
-/
theorem Settings.buildGraph_of_listed (settings : Settings) (document : Document)
    : (∀ other,
        document.AgreeOn settings.conventions.listedAttributes other
        → settings.buildGraph other = settings.buildGraph document)
      ∧ ∀ change : ElementId → Attributes → Attributes,
          (∀ id element,
            document.element? id = some element
            → ((change id element.attributes).entriesOf
                  settings.conventions.listedAttributes).Perm
                (element.attributes.entriesOf settings.conventions.listedAttributes))
          → settings.buildGraph (document.withAttributes change) = settings.buildGraph document
            ∧ ∀ rendering,
                (settings.buildGraph (document.withAttributes change)).map
                    (Render.Dot.render rendering)
                  = (settings.buildGraph document).map (Render.Dot.render rendering)
                ∧ (settings.buildGraph (document.withAttributes change)).map
                      (Render.Html.render rendering)
                    = (settings.buildGraph document).map (Render.Html.render rendering) := by
  refine ⟨fun other h => buildGraph_congr h, fun change h => ?_⟩
  have hagree : document.AgreeOn settings.conventions.listedAttributes
      (document.withAttributes change) :=
    Document.agreeOn_withAttributes fun id element helement =>
      Attributes.agreeOn_iff_perm.2 (h id element helement)
  have hgraph := buildGraph_congr hagree
  exact ⟨hgraph, fun rendering => ⟨by rw [hgraph], by rw [hgraph]⟩⟩

/-- A scene whose attributes are turned round, with a language in front of them. -/
theorem Settings.buildGraph_of_listed_of_turned
    : ∃ graph,
        ({ conventions := .arrowMarkers } : Settings).buildGraph
            (Document.new "scene" (.ofList [("id", "start"), ("goto", "end")]))
          = .ok graph
        ∧ ({ conventions := .arrowMarkers } : Settings).buildGraph
              ((Document.new "scene" (.ofList [("id", "start"), ("goto", "end")])).withAttributes
                fun _ attributes => .ofList (("lang", "en") :: attributes.entries.reverse))
            = .ok graph := by
  obtain ⟨pattern, usable⟩ := Conventions.pattern_arrowMarkers
  have build := @buildGraph_of_pattern { conventions := .arrowMarkers } pattern usable
    (Document.new "scene" (.ofList [("id", "start"), ("goto", "end")]))
  refine ⟨_, build, ?_⟩
  rw [← build]
  refine ((buildGraph_of_listed { conventions := .arrowMarkers } _).2 _ ?_).1
  intro id element helement
  cases id with
  | zero =>
      rw [← Option.some.inj helement]
      decide +kernel
  | succ id => exact absurd helement (Option.some_ne_none element).symm

end StoryAtlas
