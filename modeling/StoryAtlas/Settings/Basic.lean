/-! Settings of inference and rendering.
Every setting has a default, so that settings are written by naming only what differs.
-/

namespace StoryAtlas

/-- The conventions by which nodes and edges are recognized.  Attribute names are compared
exactly and looked at in list order. -/
structure Conventions where
  idAttributes : List String := ["id", "Id", "ID", "name", "Name"]
  labelAttributes : List String := ["label", "text", "title", "name"]
  targetAttributes : List String := ["target", "to", "goto", "next", "ref", "idref", "targetId"]
  /-- The tags of option children, compared without case. -/
  optionTags : List String := ["choice", "option", "link", "goto", "jump", "action"]
  /-- The pattern of markers in text, whose first group is the target. -/
  inlinePattern : String := "(?i)(?:goto|jump|->)\\s*#?([A-Za-z0-9_\\-:]+)"
  /-- The number of characters to which labels are cut. -/
  maxLabelLength : Nat := 60
deriving DecidableEq

/-- What is shown of a node. -/
inductive Display
  | id
  | label
deriving DecidableEq

def Display.name : Display → String
  | id => "id"
  | label => "label"

/-- The choice with a name. -/
def Display.ofName? (name : String) : Option Display :=
  if name = "id" then some .id else if name = "label" then some .label else none

/-- The settings of the written graphs. -/
structure RenderSettings where
  display : Display := .id
  graphName : String := "story"
  pageTitle : String := "Story Graph"
  /-- The address of the script that draws the page. -/
  scriptUrl : String :=
    "https://unpkg.com/vis-network@9.1.2/standalone/umd/vis-network.min.js"
deriving DecidableEq

/-- All settings. -/
structure Settings where
  conventions : Conventions := {}
  rendering : RenderSettings := {}
deriving DecidableEq

/-- The settings with another choice of what is shown. -/
def Settings.withDisplay (settings : Settings) (display : Display) : Settings :=
  { settings with rendering := { settings.rendering with display } }

end StoryAtlas
