import Mathlib.Logic.Function.Iterate
import StoryAtlas.Proofs.Registry.Registrations

/-! Registries built by calls.
Nodes may be registered in any order and under any identifiers, again and again.  The registry
then holds the calls whose identifier occurs in no earlier call, and these are the calls that were
told that they added a node.  Going from each node to the next one lists them all.
-/

namespace StoryAtlas.Registry

-----------------------------------------------------------------------------------------
-- Runs
-----------------------------------------------------------------------------------------

/-- Registers what a registration says and tells whether it became a node. -/
def tryAdd (registry : Registry) (registration : Registration) : Bool × Registry :=
  registry.tryRegister registration.id registration.label registration.tag registration.element

/-- Makes one call after the other: what they were told, and the registry behind the last one. -/
def run (registry : Registry) : List Registration → List Bool × Registry
  | [] => ([], registry)
  | call :: rest =>
      let (added, next) := registry.tryAdd call
      let (answers, last) := next.run rest
      (added :: answers, last)

/-- An identifier is taken behind a call if it was before or is that of the call. -/
theorem contains_add (registry : Registry) (call : Registration) (id : Id)
    : (registry.add call).contains id = (registry.contains id || call.id = id) := by
  unfold add register
  split
  · next htaken =>
      by_cases hid : call.id = id
      · rw [← hid, htaken, Bool.true_or]
      · rw [decide_eq_false hid, Bool.or_false]
  · simp [contains]

theorem tryAdd_eq (registry : Registry) (call : Registration)
    : registry.tryAdd call = (!registry.contains call.id, registry.add call) := by
  unfold tryAdd tryRegister
  split
  · next htaken => rw [htaken, add, register, dif_pos htaken, Bool.not_true]
  · next hfree =>
      rw [Bool.eq_false_iff.2 hfree]
      rfl

theorem run_cons (registry : Registry) (call : Registration) (rest : List Registration)
    : registry.run (call :: rest)
      = ((!registry.contains call.id) :: ((registry.add call).run rest).1,
          ((registry.add call).run rest).2) := by
  simp only [run, tryAdd_eq]

theorem snd_run (registry : Registry) (calls : List Registration)
    : (registry.run calls).2 = calls.foldl add registry := by
  induction calls generalizing registry with
  | nil => rfl
  | cons call rest ih => rw [run_cons, List.foldl_cons, ih]

/-- A call adds a node exactly if its identifier was not taken before the run and occurs in no
earlier call, by induction on the calls.
-/
theorem fst_run (registry : Registry) (calls : List Registration)
    : (registry.run calls).1
      = calls.mapIdx fun position call =>
          !registry.contains call.id
            && decide (call.id ∉ (calls.take position).map Registration.id) := by
  induction calls generalizing registry with
  | nil => rfl
  | cons call rest ih =>
      rw [run_cons, ih, List.mapIdx_cons]
      refine congrArg₂ List.cons (by simp) (List.mapIdx_eq_mapIdx_iff.2 fun position _ => ?_)
      rw [contains_add, List.take_succ_cons, List.map_cons, Bool.not_or, Bool.and_assoc]
      simp [eq_comm]

-----------------------------------------------------------------------------------------
-- Looking up and going on
-----------------------------------------------------------------------------------------

/-- The order of a node is the place of its identifier. -/
theorem order_eq_idxOf {registry : Registry} {node : Node} (h : node ∈ registry.nodes)
    : node.order = (registry.nodes.map Node.id).idxOf node.id := by
  obtain ⟨position, hposition⟩ := List.mem_iff_getElem?.1 h
  obtain ⟨hlt, hget⟩ := List.getElem?_eq_some_iff.1 hposition
  have hplace := registry.distinct.idxOf_getElem position (by simpa using hlt)
  rw [List.getElem_map, hget] at hplace
  rw [hplace, order_eq_of_getElem? hposition]

/-- What is found under an identifier is the first registration with it, at its position. -/
theorem get?_eq (registry : Registry) (id : Id)
    : registry.get? id
      = (registry.registrations.find? fun registration => registration.id = id).map
          fun registration =>
            registration.node ((registry.registrations.map Registration.id).idxOf id) := by
  have hfind : (registry.registrations.find? fun registration => registration.id = id)
      = (registry.get? id).map Node.registration :=
    List.find?_map
  rw [hfind, map_id_registrations]
  cases h : registry.get? id with
  | none => rfl
  | some node =>
      obtain rfl : node.id = id := by simpa using List.find?_some h
      have horder := order_eq_idxOf (List.mem_of_find?_eq_some h)
      rw [Option.map_some, Option.map_some, ← horder]
      rfl

/-- The next node is the one whose order is one more. -/
theorem nextAfter?_eq_some_iff {registry : Registry} {node next : Node}
    : registry.nextAfter? node = some next
      ↔ next ∈ registry.nodes ∧ next.order = node.order + 1 := by
  constructor
  · exact fun h => ⟨mem_of_nextAfter? h, order_nextAfter? h⟩
  · rintro ⟨hmem, horder⟩
    obtain ⟨position, hposition⟩ := List.mem_iff_getElem?.1 hmem
    rw [nextAfter?, ← horder, order_eq_of_getElem? hposition, hposition]

/-- Going on from the first node leads to the nodes one by one, and then nowhere, by induction on
the steps.
-/
theorem iterate_nextAfter? (registry : Registry) (steps : Nat)
    : (fun node => node.bind registry.nextAfter?)^[steps] registry.nodes.head?
      = registry.nodes[steps]? := by
  induction steps with
  | zero => rw [Function.iterate_zero_apply, List.head?_eq_getElem?]
  | succ steps ih =>
      rw [Function.iterate_succ_apply', ih]
      cases h : registry.nodes[steps]? with
      | none =>
          have hlength := List.getElem?_eq_none_iff.1 h
          rw [List.getElem?_eq_none (Nat.le_succ_of_le hlength)]
          rfl
      | some node => rw [Option.bind_some, nextAfter?, order_eq_of_getElem? h]

-----------------------------------------------------------------------------------------
-- What the calls say
-----------------------------------------------------------------------------------------

/-- Whether the identifier of the call at a position occurs in no earlier call. -/
def isFirst (calls : List Registration) (position : Nat) (call : Registration) : Bool :=
  call.id ∉ (calls.take position).map Registration.id

/-- The calls whose identifier occurs in no earlier call, in order. -/
def firstCalls (calls : List Registration) : List Registration :=
  (calls.zipIdx.filter fun call => isFirst calls call.2 call.1).map Prod.fst

theorem firstCalls_eq (calls : List Registration)
    : firstCalls calls = firstOfEach Registration.id calls :=
  (firstOfEach_eq_filter_zipIdx Registration.id calls).symm

/-- A registry and what the calls were told that made it.  Its nodes are the first calls of each
identifier, and only these were told that they added a node.
-/
structure KeepsFirst (calls : List Registration) (answers : List Bool) (registry : Registry)
    : Prop where
  nodes : registry.nodes = (firstCalls calls).mapIdx fun order call => call.node order
  answers : answers = calls.mapIdx (isFirst calls)
  size : registry.size = (firstCalls calls).length
  /-- An identifier leads to the node of its first call. -/
  get
    : ∀ id,
        registry.get? id
        = (calls.find? fun call => call.id = id).map fun call =>
            call.node (((firstCalls calls).map Registration.id).idxOf id)
  next
    : ∀ node ∈ registry.nodes, ∀ next,
        registry.nextAfter? node = some next
        ↔ next ∈ registry.nodes ∧ next.order = node.order + 1
  /-- The way from the first node leads through all nodes in order, and ends behind the last. -/
  visits
    : ∀ steps,
        (fun node => node.bind registry.nextAfter?)^[steps] registry.nodes.head?
        = registry.nodes[steps]?
  once : registry.nodes.Nodup

/-- Whatever calls are made on a new registry, it keeps the first of each identifier. -/
theorem keepsFirst_run (calls : List Registration)
    : KeepsFirst calls (empty.run calls).1 (empty.run calls).2 := by
  have hregistrations : (empty.run calls).2.registrations = firstCalls calls := by
    rw [snd_run, registrations_ofCalls, firstCalls_eq]
  exact {
    nodes := by rw [nodes_eq_mapIdx, hregistrations]
    answers := by
      rw [fst_run]
      rfl
    size := by rw [size, ← length_registrations, hregistrations]
    get := fun id => by rw [get?_eq, hregistrations, firstCalls_eq, find?_firstOfEach]
    next := fun _ _ _ => nextAfter?_eq_some_iff
    visits := iterate_nextAfter? _
    once := List.Nodup.of_map Node.id (empty.run calls).2.distinct
  }

example
    : (empty.run
          [⟨⟨"a"⟩, "First", "scene", 1⟩, ⟨⟨"b"⟩, "Other", "scene", 2⟩,
            ⟨⟨"a"⟩, "Second", "choice", 3⟩]).1
        = [true, true, false] := by
  decide

end StoryAtlas.Registry
