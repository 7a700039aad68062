import StoryAtlas.Graph
import StoryAtlas.Render.Dot
import StoryAtlas.Render.Escape
import StoryAtlas.Render.Exporter
import StoryAtlas.Settings.Basic

/-! Interactive pages.
A page embeds the nodes and edges as two lists of records and leaves the layout to a script.  In
the lists every `</` is written with a backslash between, which changes no value, so that they
cannot end the script they stand in.
-/

namespace StoryAtlas.Render.Html

/-- A record of JSON strings. -/
def jsonRecord (fields : List (String × String)) : List Char :=
  let written := fields.map fun (name, value) => jsonString name ++ ':' :: jsonString value
  '\x7b' :: (List.intercalate [','] written ++ ['\x7d'])

/-- A list of records. -/
def jsonRecords (records : List (List (String × String))) : List Char :=
  '[' :: (List.intercalate [','] (records.map jsonRecord) ++ [']'])

/-- What is shown when a node is pointed at: its tag, its identifier and its label. -/
def hoverText (node : Node) : String :=
  String.ofList
    (escapeMarkup (node.tag ++ " / " ++ node.id.text ++ "\n" ++ node.label).toList)

/-- The fields of a node. -/
def nodeFields (display : Display) (node : Node) : List (String × String) :=
  [("id", node.id.text), ("label", Dot.shownLabel display node), ("title", hoverText node)]

/-- The fields of an edge. -/
def edgeFields (edge : Edge) : List (String × String) :=
  [("from", edge.source.text), ("to", edge.target.text), ("label", edge.relation.text)]

/-- Writes a backslash into every `</`. -/
def scriptSafe (chars : List Char) : List Char :=
  Text.replacePair '<' '/' ['<', '\\', '/'] chars

/-- The embedded nodes. -/
def nodesText (display : Display) (graph : Graph) : List Char :=
  scriptSafe (jsonRecords (graph.nodes.nodes.map (nodeFields display)))

/-- The embedded edges. -/
def edgesText (graph : Graph) : List Char :=
  scriptSafe (jsonRecords (graph.edges.map edgeFields))

/-- Lines of text. -/
def lines (texts : List String) : List Char :=
  texts.flatMap fun text => text.toList ++ ['\n']

/-- The page up to its title. -/
def pageStart : List Char :=
  lines
    ["<!doctype html>",
      "<html>",
      "<head>",
      "  <meta charset=\"utf-8\">"]
    ++ "  <title>".toList

/-- The page from its title to the address of its script. -/
def pageScript : List Char :=
  lines
    ["</title>"]
    ++ "  <script type=\"text/javascript\" src=\"".toList

/-- The page from the address of its script to the embedded nodes. -/
def pageBody : List Char :=
  lines
    ["\"></script>",
      "  <style>",
      "    body \x7b font-family: Arial, sans-serif; margin: 0; \x7d",
      "    #mynetwork \x7b width: 100%; height: 100vh; border: 1px solid #ddd; \x7d",
      "  </style>",
      "</head>",
      "<body>",
      "<div id=\"mynetwork\"></div>",
      "<script>"]
    ++ "const nodes = ".toList

/-- The page between the embedded nodes and edges. -/
def pageEdges : List Char :=
  lines
    [";"]
    ++ "const edges = ".toList

/-- The page behind the embedded edges. -/
def pageEnd : List Char :=
  lines
    [";",
      "const container = document.getElementById('mynetwork');",
      "const data = \x7b",
      "  nodes: new vis.DataSet(nodes),",
      "  edges: new vis.DataSet(edges)",
      "\x7d;",
      "const options = \x7b",
      "  nodes: \x7b",
      "    shape: 'box',",
      "    margin: 10,",
      "    widthConstraint: \x7b maximum: 300 \x7d",
      "  \x7d,",
      "  edges: \x7b",
      "    arrows: 'to',",
      "    smooth: \x7b type: 'cubicBezier' \x7d",
      "  \x7d,",
      "  physics: \x7b",
      "    stabilization: false,",
      "    barnesHut: \x7b",
      "      gravitationalConstant: -20000,",
      "      springConstant: 0.001,",
      "      springLength: 200",
      "    \x7d",
      "  \x7d,",
      "  interaction: \x7b hover: true \x7d",
      "\x7d;",
      "const network = new vis.Network(container, data, options);",
      "",
      "network.on('click', function(params) \x7b",
      "  if (params.nodes.length > 0) \x7b",
      "    const nid = params.nodes[0];",
      "    const n = nodes.find(x => x.id === nid);",
      "    alert('Node: ' + nid + '\\n' + (n.title || ''));",
      "  \x7d",
      "\x7d);",
      "</script>",
      "</body>",
      "</html>"]

/-- The name of the format. -/
def formatName : String := "interactive HTML"

/-- The backend for pages. -/
structure Backend where
  display : Display
  pageTitle : String
  scriptUrl : String

namespace Backend

def new (settings : RenderSettings) : Backend where
  display := settings.display
  pageTitle := settings.pageTitle
  scriptUrl := settings.scriptUrl

/-- The page of a graph. -/
def render (backend : Backend) (graph : Graph) : String :=
  String.ofList
    (pageStart ++ escapeMarkup backend.pageTitle.toList ++ pageScript
      ++ escapeMarkup backend.scriptUrl.toList ++ pageBody ++ nodesText backend.display graph
      ++ pageEdges ++ edgesText graph ++ pageEnd)

def exporter (backend : Backend) : Exporter where
  formatName := formatName
  exportGraph := backend.render

end Backend

/-- The page of a graph, written with settings. -/
def render (settings : RenderSettings) (graph : Graph) : String :=
  (Backend.new settings).render graph

end StoryAtlas.Render.Html
