import StoryAtlas.Failure
import StoryAtlas.Inference.Engine
import StoryAtlas.Markup.Reader
import StoryAtlas.Naming

/-! From a document to its graph.
The nodes are the identified elements or, if there are none, the children of the root; the edges
are inferred with the three standard detectors.  Only an unusable pattern makes it fail.
-/

namespace StoryAtlas

open StoryAtlas.Inference

namespace Conventions

/-- The compiled pattern of markers, which needs a group for the target. -/
def pattern (conventions : Conventions) : Except ConfigFault Pattern :=
  match Pattern.compile conventions.inlinePattern with
  | .error fault => .error (.invalidPattern fault.message)
  | .ok pattern =>
      if pattern.groupCount < 2 then .error (.patternWithoutGroup conventions.inlinePattern)
      else .ok pattern

def targetDetector (conventions : Conventions) : Detector :=
  .targetAttribute conventions.targetAttributes

def optionDetector (conventions : Conventions) : Detector :=
  .optionChild conventions.optionTags conventions.targetAttributes

/-- The standard detectors in their order. -/
def detectors (conventions : Conventions) : Except ConfigFault (List Detector) :=
  conventions.pattern.map fun pattern =>
    [conventions.targetDetector, .inlineMarker pattern, conventions.optionDetector]

/-- The nodes of a document, and whether they had to be made up. -/
def nodesOf (conventions : Conventions) (document : Document) : Registry × Bool :=
  let collected := conventions.collect document
  if collected.isEmpty then (conventions.synthesize document, true) else (collected, false)

end Conventions

/-- The graph of a document. -/
def Settings.buildGraph (settings : Settings) (document : Document)
    : Except ConfigFault Graph :=
  settings.conventions.detectors.map fun detectors =>
    let (nodes, synthesized) := settings.conventions.nodesOf document
    { nodes, edges := infer detectors ⟨document, nodes⟩, synthesized }

/-- The graph of a source text. -/
def Settings.graphOf (settings : Settings) (source : String) : Except Failure Graph :=
  match Markup.parse source with
  | .error error => .error (.parse error source)
  | .ok document => (settings.buildGraph document).mapError Failure.config

end StoryAtlas
