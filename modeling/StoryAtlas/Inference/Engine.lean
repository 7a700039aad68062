import StoryAtlas.Inference.Detector

/-! Inference of edges.
The detectors run for each node in turn.  An edge is kept unless one with the same ends and the
same relation text was kept before, and a node for which no edge was kept leads to the next one.
-/

namespace StoryAtlas.Inference

/-- Whether two edges have the same ends and the same relation text. -/
def sameEdge (left right : Edge) : Bool :=
  left.source = right.source && left.target = right.target
    && left.relation.text = right.relation.text

/-- Adds an edge at the end, unless it is there already. -/
def addEdge (edges : Array Edge) (edge : Edge) : Array Edge :=
  if edges.any (sameEdge edge) then edges else edges.push edge

/-- What the detectors find for a node, in their order. -/
def candidates (detectors : List Detector) (context : Context) (node : Node) : List Edge :=
  detectors.flatMap fun detector => detector.detect context node

/-- Adds what the detectors find for a node. -/
def addCandidates (detectors : List Detector) (context : Context) (edges : Array Edge)
    (node : Node)
    : Array Edge :=
  (candidates detectors context node).foldl addEdge edges

/-- Adds the edges of a node, the way to the next node if the detectors added none. -/
def addNodeEdges (detectors : List Detector) (context : Context) (edges : Array Edge)
    (node : Node)
    : Array Edge :=
  let found := addCandidates detectors context edges node
  if found.size = edges.size then
    match context.nextId? node with
    | some next => addEdge found ⟨node.id, next, .defaultNext⟩
    | none => found
  else found

/-- The edges of all nodes. -/
def infer (detectors : List Detector) (context : Context) : List Edge :=
  (context.nodes.nodes.foldl (addNodeEdges detectors context) #[]).toList

end StoryAtlas.Inference
