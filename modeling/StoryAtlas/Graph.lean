import StoryAtlas.Registry

/-! Story graphs.
An edge leads from one identifier to another and says by which sign of the text it was found.
Its target need not be a node; such an edge dangles.
-/

namespace StoryAtlas

/-- The sign by which an edge was found. -/
inductive Relation
  /-- A target attribute of the node's element. -/
  | ownAttribute (name : String)
  /-- A marker in the node's text. -/
  | inlineMarker
  /-- A target attribute of an option child. -/
  | childAttribute (tag name : String)
  /-- The only option child, which names no target. -/
  | childDefaultNext
  /-- One of several option children, which names no target. -/
  | childTagDefaultNext (tag : String)
  /-- No sign at all: the next node follows. -/
  | defaultNext
deriving DecidableEq

/-- The text of a relation on an edge. -/
def Relation.text : Relation → String
  | ownAttribute name => name
  | inlineMarker => "inline"
  | childAttribute tag name => "child::" ++ tag ++ "@" ++ name
  | childDefaultNext => "child::default::next"
  | childTagDefaultNext tag => "child::" ++ tag ++ "::default::next"
  | defaultNext => "default::next"

/-- A way from one place of the story to another. -/
structure Edge where
  source : Id
  target : Id
  relation : Relation
deriving DecidableEq

/-- The nodes and edges of a story, and whether its nodes had to be made up. -/
structure Graph where
  nodes : Registry
  edges : List Edge
  synthesized : Bool
deriving DecidableEq

/-- The edges whose target is no node. -/
def Graph.dangling (graph : Graph) : List Edge :=
  graph.edges.filter fun edge => !graph.nodes.contains edge.target

end StoryAtlas
