import StoryAtlas.Journal
import StoryAtlas.Story

/-! Records of building a graph.
The records tell which elements were passed over for their identifier, what was found for each
node, and the size of the graph.
-/

namespace StoryAtlas

open StoryAtlas.Inference

namespace Conventions

/-- The records of elements whose identifier is taken by the registry or an element before. -/
def duplicateRecords (conventions : Conventions)
    : Registry → List (ElementId × Element) → List Record
  | _, [] => []
  | registry, entry :: rest =>
      let taken := (conventions.findId? entry.2).filter registry.contains
      let records := taken.toList.map fun id =>
        Record.trace "Duplicate identifier ignored" [("id", id.text), ("tag", entry.2.tag)]
      records ++ conventions.duplicateRecords (conventions.collectElement registry entry) rest

/-- The records of finding the nodes of a document. -/
def nodeRecords (conventions : Conventions) (document : Document) : List Record :=
  let collected := conventions.collect document
  conventions.duplicateRecords .empty document.inOrder
    ++ [.debug "Nodes collected" [("nodes", toString collected.size)]]
    ++ if collected.isEmpty then
        [.warn "No identified nodes found, using top-level children as nodes"]
      else []

end Conventions

/-- The records of inferring the edges of nodes, some edges being there already.  What leads to
the next node for want of other edges does not count. -/
def Inference.edgeRecords (detectors : List Detector) (context : Context)
    : Array Edge → List Node → List Record
  | _, [] => []
  | edges, node :: rest =>
      let found := (addCandidates detectors context edges node).size - edges.size
      .trace "Node edges inferred" [("node", node.id.text), ("edges", toString found)]
        :: edgeRecords detectors context (addNodeEdges detectors context edges node) rest

/-- The records of a finished graph. -/
def Graph.records (graph : Graph) : List Record :=
  let nodes := toString graph.nodes.size
  let edges := toString graph.edges.length
  let dangling := graph.dangling.length
  [.debug "Edges inferred" [("nodes", nodes), ("edges", edges)]]
    ++ (if dangling = 0 then []
      else [.debug "Edges point at unknown identifiers" [("dangling", toString dangling)]])
    ++ (if graph.nodes.isEmpty then [.warn "Story graph has no nodes"] else [])
    ++ [.info "Story graph built"
        [("nodes", nodes), ("edges", edges), ("synthesized", toString graph.synthesized)]]

/-- The records of building the graph of a document; an unusable pattern leaves none. -/
def Settings.buildJournal (settings : Settings) (document : Document) : List Record :=
  match settings.conventions.detectors, settings.buildGraph document with
  | .ok detectors, .ok graph =>
      settings.conventions.nodeRecords document
        ++ edgeRecords detectors ⟨document, graph.nodes⟩ #[] graph.nodes.nodes
        ++ graph.records
  | _, _ => []

end StoryAtlas
