import StoryAtlas.Builder
import StoryAtlas.Journal.Building
import StoryAtlas.Journal.Reading
import StoryAtlas.Session.Arguments
import StoryAtlas.Session.Configuration
import StoryAtlas.Text.Literal

/-! A run from its arguments to the written files.
The story is read with the settings of the run, and the graphs asked for are written one after
the other.  Nothing is written before all of them are rendered; a file that cannot be written
ends the run, and what was written before it stays.
-/

namespace StoryAtlas.Session

/-- A text to be written to a file. -/
structure Output where
  path : String
  formatName : String
  text : String
deriving DecidableEq

/-- The backends for the written forms that are asked for, with the paths of their files. -/
def Arguments.exporters (arguments : Arguments) (settings : RenderSettings)
    : List (String × Render.Exporter) :=
  (arguments.page.map fun path => (path, (Render.Html.Backend.new settings).exporter)).toList
    ++ (arguments.description.map fun path =>
      (path, (Render.Dot.Backend.new settings).exporter)).toList

/-- The written forms of a graph that are asked for. -/
def Arguments.outputs (arguments : Arguments) (settings : RenderSettings) (graph : Graph)
    : List Output :=
  (arguments.exporters settings).map fun (path, exporter) =>
    ⟨path, exporter.formatName, exporter.exportGraph graph⟩

/-- The settings with the choices made in the arguments. -/
def Arguments.adjust (arguments : Arguments) (settings : Settings) : Settings :=
  if arguments.useLabel then settings.withDisplay .label else settings

/-- A path that may be missing, as records show it. -/
def shownPath : Option String → String
  | none => "None"
  | some path => "Some(" ++ Text.literal path ++ ")"

/-- The record with which a run begins. -/
def Arguments.record (arguments : Arguments) : Record :=
  .info "Processing story"
    [("input_path", arguments.input), ("html_path", shownPath arguments.page),
      ("dot_path", shownPath arguments.description)]

/-- The records of a run that is asked for no output. -/
def summary (graph : Graph) : List Record :=
  [.warn "No output requested, use --out or --out-dot to write the graph",
    .info "Graph summary"
      [("nodes", toString graph.nodes.size), ("edges", toString graph.edges.length),
        ("dangling", toString graph.dangling.length),
        ("synthesized", toString graph.synthesized)]]

variable {m : Type → Type} [Monad m] [Host m]

/-- Notes records in order. -/
def noteAll : List Record → m Unit
  | [] => return ()
  | record :: rest => do
      Host.note record
      noteAll rest

/-- The document of a story, with the records of reading it. -/
def readStory (builder : GraphBuilder) (source : String) : ExceptT Failure m Document := do
  noteAll (m := m) (.info "Parsing story document" :: Markup.journal source)
  match builder.parse source with
  | .error failure => throw failure
  | .ok document =>
      Host.note (m := m)
        (.debug "Document parsed successfully" [("elements", toString document.size)])
      return document

/-- The graph of a document, with the records of building it. -/
def buildStory (builder : GraphBuilder) (document : Document) : ExceptT Failure m Graph := do
  noteAll (m := m) (builder.settings.buildJournal document)
  match builder.build document with
  | .error failure => throw failure
  | .ok graph => return graph

/-- Writes texts to their files, one after the other. -/
def writeAll : List Output → ExceptT Failure m Unit
  | [] => return ()
  | output :: rest => do
      match ← Host.writeText (m := m) output.path output.text with
      | .error fault => throw (.file fault)
      | .ok () =>
          Host.note (m := m) (.info ("Wrote " ++ output.formatName ++ " to " ++ output.path))
          writeAll rest

/-- Reads the story named in the arguments and writes the graphs asked for. -/
def run (systemPath : Option String) (arguments : Arguments) : ExceptT Failure m Unit := do
  Host.note (m := m) arguments.record
  if ← Host.pathExists (m := m) arguments.input then
    let settings := arguments.adjust (← loadSettings systemPath arguments.config)
    let source ← readFile arguments.input
    let builder : GraphBuilder := { settings }
    let document ← readStory builder source
    let graph ← buildStory builder document
    match arguments.outputs builder.settings.rendering graph with
    | [] => noteAll (m := m) (summary graph)
    | outputs => writeAll outputs
  else throw (.inputNotFound arguments.input)

end StoryAtlas.Session
