import StoryAtlas.Document
import StoryAtlas.Identifier

/-! The nodes of a story.
A registry lists nodes in the order of their registration.  No identifier occurs twice, and a
node's order is its position; both are part of the type.
-/

namespace StoryAtlas

/-- A place of the story. -/
structure Node where
  id : Id
  label : String
  tag : String
  order : Nat
  element : ElementId
deriving DecidableEq

/-- Nodes with distinct identifiers, in the order of registration. -/
structure Registry where
  nodes : List Node
  distinct : (nodes.map Node.id).Nodup
  ordered : nodes.map Node.order = List.range nodes.length
deriving DecidableEq

namespace Registry

def empty : Registry :=
  ⟨[], List.nodup_nil, rfl⟩

/-- The number of nodes. -/
def size (registry : Registry) : Nat :=
  registry.nodes.length

def isEmpty (registry : Registry) : Bool :=
  registry.nodes.isEmpty

/-- The node with the identifier. -/
def get? (registry : Registry) (id : Id) : Option Node :=
  registry.nodes.find? fun node => node.id = id

def contains (registry : Registry) (id : Id) : Bool :=
  registry.nodes.any fun node => node.id = id

theorem contains_iff {registry : Registry} {id : Id}
    : registry.contains id = true ↔ id ∈ registry.nodes.map Node.id := by
  simp [contains]

/-- Adds a node at the end, unless its identifier is taken. -/
def register (registry : Registry) (id : Id) (label tag : String) (element : ElementId)
    : Registry :=
  if h : registry.contains id = true then registry
  else
    { nodes := registry.nodes ++ [⟨id, label, tag, registry.nodes.length, element⟩]
      distinct := by
        rw [contains_iff] at h
        rw [List.map_append, List.nodup_append]
        refine ⟨registry.distinct, by simp, ?_⟩
        simp only [List.map_cons, List.map_nil, List.mem_singleton]
        rintro a ha b rfl rfl
        exact h ha
      ordered := by
        simp [registry.ordered, List.range_succ] }

/-- Registers a node and tells whether it was added: not if its identifier is taken. -/
def tryRegister (registry : Registry) (id : Id) (label tag : String) (element : ElementId)
    : Bool × Registry :=
  if registry.contains id then (false, registry)
  else (true, registry.register id label tag element)

/-- The node registered right after the given one. -/
def nextAfter? (registry : Registry) (node : Node) : Option Node :=
  registry.nodes[node.order + 1]?

end Registry

end StoryAtlas
