/-! Identifiers of nodes. -/

namespace StoryAtlas

/-- The name by which a node is known and by which edges refer to it. -/
structure Id where
  text : String
deriving DecidableEq

namespace Id

/-- The identifier given to an element that has none: its tag and its position. -/
def synthetic (tag : String) (index : Nat) : Id :=
  ⟨tag ++ "_" ++ toString index⟩

end Id

end StoryAtlas
