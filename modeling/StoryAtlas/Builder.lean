import StoryAtlas.Render.Dot
import StoryAtlas.Render.Html
import StoryAtlas.Story

/-! From the text of a story to the written forms of its graph.
A builder holds the settings that all steps on this way use.
-/

namespace StoryAtlas

/-- Builds and writes graphs with its settings. -/
structure GraphBuilder where
  settings : Settings := {}

namespace GraphBuilder

/-- The document of a source text.  A failure keeps the text for its reports. -/
def parse (_ : GraphBuilder) (source : String) : Except Failure Document :=
  (Markup.parse source).mapError (.parse · source)

/-- The graph of a document. -/
def build (builder : GraphBuilder) (document : Document) : Except Failure Graph :=
  (builder.settings.buildGraph document).mapError .config

/-- The description of a graph. -/
def renderDescription (builder : GraphBuilder) (graph : Graph) : String :=
  Render.Dot.render builder.settings.rendering graph

/-- The page of a graph. -/
def renderPage (builder : GraphBuilder) (graph : Graph) : String :=
  Render.Html.render builder.settings.rendering graph

/-- The graph of a source text is that of its document. -/
theorem graphOf_eq (builder : GraphBuilder) (source : String)
    : builder.settings.graphOf source = builder.parse source >>= builder.build := by
  unfold Settings.graphOf parse
  cases Markup.parse source <;> rfl

end GraphBuilder

end StoryAtlas
