import StoryAtlas.Graph
import StoryAtlas.Render.Escape
import StoryAtlas.Render.Exporter
import StoryAtlas.Settings.Basic

/-! Graph descriptions in the DOT language.
A description has one statement for each node and then one for each edge, every name in quotes.
-/

namespace StoryAtlas.Render.Dot

/-- Whether a character may begin a name without quotes. -/
def isNameStart (c : Char) : Bool :=
  c.isAlpha || c == '_'

/-- Whether a character may go on a name without quotes. -/
def isNameChar (c : Char) : Bool :=
  c.isAlphanum || c == '_'

/-- The name of a graph, in quotes unless it is a plain word. -/
def graphName (name : String) : List Char :=
  let chars := name.toList
  if (chars.head?.any isNameStart) && chars.all isNameChar then chars else quoted name

/-- What is shown of a node. -/
def shownLabel (display : Display) (node : Node) : String :=
  match display with
  | .id => node.id.text
  | .label => node.label

/-- An attribute list that holds a label. -/
def labelList (label : String) : List Char :=
  " [label=".toList ++ quoted label ++ "];\n".toList

/-- The statement of a node. -/
def nodeStatement (display : Display) (node : Node) : List Char :=
  "  ".toList ++ quoted node.id.text ++ labelList (shownLabel display node)

/-- The statement of an edge. -/
def edgeStatement (edge : Edge) : List Char :=
  "  ".toList ++ quoted edge.source.text ++ " -> ".toList ++ quoted edge.target.text
    ++ labelList edge.relation.text

/-- The statements between the braces. -/
def body (display : Display) (graph : Graph) : List Char :=
  "  rankdir=LR;\n  node [shape=box];\n".toList
    ++ graph.nodes.nodes.flatMap (nodeStatement display)
    ++ graph.edges.flatMap edgeStatement

/-- The name of the format. -/
def formatName : String := "DOT"

/-- The backend for descriptions. -/
structure Backend where
  graphName : String
  display : Display

namespace Backend

def new (settings : RenderSettings) : Backend where
  graphName := settings.graphName
  display := settings.display

/-- The description of a graph. -/
def render (backend : Backend) (graph : Graph) : String :=
  String.ofList
    ("digraph ".toList ++ Dot.graphName backend.graphName ++ " \x7b\n".toList
      ++ body backend.display graph ++ "\x7d\n".toList)

def exporter (backend : Backend) : Exporter where
  formatName := formatName
  exportGraph := backend.render

end Backend

/-- The description of a graph, written with settings. -/
def render (settings : RenderSettings) (graph : Graph) : String :=
  (Backend.new settings).render graph

end StoryAtlas.Render.Dot
