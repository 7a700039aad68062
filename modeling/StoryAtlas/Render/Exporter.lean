import StoryAtlas.Graph

/-! Backends for written graphs.
A backend is made from settings, of which it keeps its own copies.  Whoever only wants a graph
written does not need to know which backend it is.
-/

namespace StoryAtlas.Render

/-- A backend of any kind. -/
structure Exporter where
  /-- The name of the format, as records show it. -/
  formatName : String
  /-- The written form of a graph. -/
  exportGraph : Graph → String

end StoryAtlas.Render
