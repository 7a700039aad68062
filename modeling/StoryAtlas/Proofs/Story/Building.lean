import StoryAtlas.Proofs.Outcome
import StoryAtlas.Story

/-! Building a graph succeeds exactly with a usable pattern of markers, and then the graph is
made of the nodes of the document and the edges that the standard detectors find. -/

namespace StoryAtlas

namespace Conventions

/-- The standard detectors with a compiled pattern. -/
def detectorsWith (conventions : Conventions) (pattern : Pattern) : List Inference.Detector :=
  [conventions.targetDetector, .inlineMarker pattern, conventions.optionDetector]

theorem detectors_of_pattern {conventions : Conventions} {pattern : Pattern}
    (usable : conventions.pattern = .ok pattern)
    : conventions.detectors = .ok (conventions.detectorsWith pattern) := by
  rw [detectors, usable]
  rfl

/-- Conventions with markers such as `->end`. -/
def arrowMarkers : Conventions := { inlinePattern := "->([a-z]+)" }

/-- The pattern of an arrow and a name is usable. -/
theorem pattern_arrowMarkers : ∃ pattern, arrowMarkers.pattern = .ok pattern := by
  have hok : arrowMarkers.pattern.isOk = true := by decide +kernel
  exact exists_of_isOk hok

/-- The pattern of the standard conventions is usable. -/
theorem pattern_standard : ∃ pattern, ({} : Conventions).pattern = .ok pattern := by
  have hok : ({} : Conventions).pattern.isOk = true := by decide +kernel
  exact exists_of_isOk hok

end Conventions

theorem Settings.buildGraph_of_pattern {settings : Settings} {pattern : Pattern}
    (usable : settings.conventions.pattern = .ok pattern) (document : Document)
    : settings.buildGraph document
      = .ok
          {
            nodes := (settings.conventions.nodesOf document).1
            edges :=
              Inference.infer (settings.conventions.detectorsWith pattern)
                ⟨document, (settings.conventions.nodesOf document).1⟩
            synthesized := (settings.conventions.nodesOf document).2
          } := by
  rw [buildGraph, Conventions.detectors_of_pattern usable]
  rfl

theorem Settings.exists_pattern_of_buildGraph {settings : Settings} {document : Document}
    {graph : Graph} (h : settings.buildGraph document = .ok graph)
    : ∃ pattern, settings.conventions.pattern = .ok pattern := by
  cases hpattern : settings.conventions.pattern with
  | error fault =>
      rw [buildGraph, Conventions.detectors, hpattern] at h
      simp [Except.map] at h
  | ok pattern => exact ⟨pattern, rfl⟩

/-- A graph that was built has the nodes of its document. -/
theorem Settings.nodesOf_of_buildGraph {settings : Settings} {document : Document}
    {graph : Graph} (h : settings.buildGraph document = .ok graph)
    : settings.conventions.nodesOf document = (graph.nodes, graph.synthesized) := by
  obtain ⟨pattern, hpattern⟩ := exists_pattern_of_buildGraph h
  rw [buildGraph_of_pattern hpattern, Except.ok.injEq] at h
  rw [← h]

/-- A graph that was built has the edges inferred from its nodes. -/
theorem Settings.edges_of_buildGraph {settings : Settings} {document : Document} {graph : Graph}
    {pattern : Pattern} (usable : settings.conventions.pattern = .ok pattern)
    (h : settings.buildGraph document = .ok graph)
    : graph.edges
      = Inference.infer (settings.conventions.detectorsWith pattern)
          ⟨document, graph.nodes⟩ := by
  rw [buildGraph_of_pattern usable, Except.ok.injEq] at h
  rw [← h]

end StoryAtlas
