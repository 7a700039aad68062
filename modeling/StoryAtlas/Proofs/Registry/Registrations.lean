import Mathlib.Data.List.Nodup
import StoryAtlas.Registry
import StoryAtlas.Proofs.FirstOfEach

/-! Registries and the registrations that made them.
A node is a registration at a position, so a registry is known by its registrations.  Registering
adds one whose identifier is new and leaves the registry alone otherwise.
-/

namespace StoryAtlas

/-- What a node is registered with. -/
structure Registration where
  id : Id
  label : String
  tag : String
  element : ElementId
deriving DecidableEq

/-- The node that a registration makes at a position. -/
def Registration.node (registration : Registration) (order : Nat) : Node :=
  ⟨registration.id, registration.label, registration.tag, order, registration.element⟩

/-- What a node was registered with. -/
def Node.registration (node : Node) : Registration :=
  ⟨node.id, node.label, node.tag, node.element⟩

namespace Registry

/-- Registers what a registration says. -/
def add (registry : Registry) (registration : Registration) : Registry :=
  registry.register registration.id registration.label registration.tag registration.element

/-- The registrations that have become nodes, in order. -/
def registrations (registry : Registry) : List Registration :=
  registry.nodes.map Node.registration

@[simp]
theorem registrations_empty : empty.registrations = [] := rfl

@[simp]
theorem length_registrations (registry : Registry)
    : registry.registrations.length = registry.nodes.length := by
  simp [registrations]

theorem map_id_registrations (registry : Registry)
    : registry.registrations.map Registration.id = registry.nodes.map Node.id := by
  simp [registrations, Node.registration]

/-- The order of a node is its position. -/
theorem order_eq_of_getElem? {registry : Registry} {position : Nat} {node : Node}
    (h : registry.nodes[position]? = some node)
    : node.order = position := by
  have hlt := (List.getElem?_eq_some_iff.1 h).1
  have hget := congrArg (·[position]?) registry.ordered
  simpa only [List.getElem?_map, h, Option.map_some, List.getElem?_range hlt,
    Option.some.injEq] using hget

/-- The next node stands one place behind. -/
theorem order_nextAfter? {registry : Registry} {node next : Node}
    (h : registry.nextAfter? node = some next)
    : next.order = node.order + 1 :=
  order_eq_of_getElem? h

theorem mem_of_nextAfter? {registry : Registry} {node next : Node}
    (h : registry.nextAfter? node = some next)
    : next ∈ registry.nodes :=
  List.mem_of_getElem? h

/-- A node is known by its identifier. -/
theorem eq_of_id_eq {registry : Registry} {node other : Node} (hnode : node ∈ registry.nodes)
    (hother : other ∈ registry.nodes) (h : node.id = other.id)
    : node = other :=
  List.inj_on_of_nodup_map registry.distinct hnode hother h

/-- The nodes are the registrations at their positions. -/
theorem nodes_eq_mapIdx (registry : Registry)
    : registry.nodes = registry.registrations.mapIdx fun order registration =>
        registration.node order := by
  refine (List.mapIdx_eq_iff.2 fun order => ?_).symm
  rw [registrations, List.getElem?_map]
  cases h : registry.nodes[order]? with
  | none => rfl
  | some node =>
      simp [Node.registration, Registration.node, ← order_eq_of_getElem? h]

/-- Registering adds a registration with a new identifier at the end. -/
theorem registrations_add (registry : Registry) (registration : Registration)
    : (registry.add registration).registrations
      = addFirst Registration.id registry.registrations registration := by
  unfold add register addFirst
  rw [map_id_registrations]
  split
  · next h => rw [if_pos (contains_iff.1 h)]
  · next h =>
      rw [if_neg (mt contains_iff.2 h)]
      simp [registrations, Node.registration]

theorem registrations_foldl_add (registry : Registry) (calls : List Registration)
    : (calls.foldl add registry).registrations
      = calls.foldl (addFirst Registration.id) registry.registrations := by
  induction calls generalizing registry with
  | nil => rfl
  | cons call rest ih => rw [List.foldl_cons, List.foldl_cons, ih, registrations_add]

/-- Registering one thing after the other keeps the first of each identifier. -/
theorem registrations_ofCalls (calls : List Registration)
    : (calls.foldl add empty).registrations = firstOfEach Registration.id calls := by
  rw [registrations_foldl_add, registrations_empty, foldl_addFirst_nil]

end Registry

end StoryAtlas
