import Mathlib.Data.List.Basic
import StoryAtlas.Proofs.Document.Traversal
import StoryAtlas.Proofs.Registry.Registrations
import StoryAtlas.Proofs.Story.Building

/-! The nodes of a story.
They are the identified elements in document order, the first of each identifier.  Without any
identifier they are the children of the root, under names that never clash: behind the last
underscore of such a name stands its position, and the digits of a number have no underscore.
-/

namespace StoryAtlas

-----------------------------------------------------------------------------------------
-- Names made of tag and position
-----------------------------------------------------------------------------------------

/-- The digits of a position tell it, by reading them back. -/
theorem toDigits_injective {first second : Nat}
    (h : Nat.toDigits 10 first = Nat.toDigits 10 second)
    : first = second := by
  rw [← Nat.ofDigitChars_ten_toDigits (n := first), h, Nat.ofDigitChars_ten_toDigits]

/-- A name tells its tag and its position.
Witness: read backwards, the digits end at the first underscore.
-/
theorem Id.synthetic_injective {tag other : String} {first second : Nat}
    (h : Id.synthetic tag first = Id.synthetic other second)
    : tag = other ∧ first = second := by
  have htext : (Nat.toDigits 10 first).reverse ++ '_' :: tag.toList.reverse
      = (Nat.toDigits 10 second).reverse ++ '_' :: other.toList.reverse := by
    have hreversed := congrArg (fun id => id.text.toList.reverse) h
    simpa [synthetic] using hreversed
  have hfree (index : Nat) : ∀ c ∈ (Nat.toDigits 10 index).reverse, (c != '_') = true := by
    intro c hc
    rw [bne_iff_ne]
    rintro rfl
    exact Nat.underscore_not_in_toDigits (List.mem_reverse.1 hc)
  have hdigits := congrArg (List.takeWhile (· != '_')) htext
  have hrest := congrArg (List.dropWhile (· != '_')) htext
  rw [List.takeWhile_append_of_pos (hfree first), List.takeWhile_append_of_pos (hfree second)]
    at hdigits
  rw [List.dropWhile_append_of_pos (hfree first), List.dropWhile_append_of_pos (hfree second)]
    at hrest
  have htag : tag.toList.reverse = other.toList.reverse := by simpa using hrest
  have hindex : (Nat.toDigits 10 first).reverse = (Nat.toDigits 10 second).reverse := by
    simpa using hdigits
  exact ⟨String.toList_inj.1 (List.reverse_inj.1 htag),
    toDigits_injective (List.reverse_inj.1 hindex)⟩

namespace Conventions

variable {conventions : Conventions} {document : Document}

-----------------------------------------------------------------------------------------
-- Identified elements
-----------------------------------------------------------------------------------------

/-- An element with its handle and its identifier. -/
structure Identified where
  id : Id
  handle : ElementId
  element : Element

/-- The element behind a handle, if it has an identifier. -/
def identify? (conventions : Conventions) (document : Document) (handle : ElementId)
    : Option Identified := do
  let element ← document.element? handle
  let id ← conventions.findId? element
  some ⟨id, handle, element⟩

/-- The elements with an identifier, as the recursive listing of the tree gives them. -/
def identified (conventions : Conventions) (document : Document) : List Identified :=
  (document.listing Document.root).filterMap (conventions.identify? document)

/-- What an identified element is registered with. -/
def registration (conventions : Conventions) (entry : Identified) : Registration :=
  ⟨entry.id, conventions.labelFor entry.element (some entry.element.tag), entry.element.tag,
    entry.handle⟩

/-- Collecting an element registers it if it is identified. -/
theorem collect_eq_foldl (conventions : Conventions) (document : Document)
    : conventions.collect document
      = ((conventions.identified document).map conventions.registration).foldl Registry.add
          .empty := by
  unfold collect Document.inOrder identified
  rw [Document.descendants_eq_listing, List.foldl_filterMap, List.foldl_map,
    List.foldl_filterMap]
  congr 1
  funext registry handle
  unfold identify? collectElement
  cases document.element? handle with
  | none => rfl
  | some element =>
      cases hid : conventions.findId? element with
      | none => simp [hid]
      | some id => simp [hid, Registry.add, registration]

/-- The first element of each identifier becomes a node, in document order. -/
theorem nodes_collect (conventions : Conventions) (document : Document)
    : (conventions.collect document).nodes
      = (firstOfEach Identified.id (conventions.identified document)).mapIdx fun order entry =>
          (conventions.registration entry).node order := by
  rw [Registry.nodes_eq_mapIdx, collect_eq_foldl, Registry.registrations_ofCalls,
    firstOfEach_map]
  exact List.mapIdx_eq_iff.2 fun order => by simp [Function.comp_def, registration]

theorem identify?_eq_some_iff {handle : ElementId} {entry : Identified}
    : conventions.identify? document handle = some entry
      ↔ entry.handle = handle
        ∧ document.element? handle = some entry.element
        ∧ conventions.findId? entry.element = some entry.id := by
  cases entry with
  | mk id other element =>
      simp only [identify?, Option.bind_eq_bind, Option.bind_eq_some_iff, Option.some.injEq,
        Identified.mk.injEq]
      constructor
      · rintro ⟨_, helement, _, hid, rfl, rfl, rfl⟩
        exact ⟨rfl, helement, hid⟩
      · rintro ⟨rfl, helement, hid⟩
        exact ⟨element, helement, id, hid, rfl, rfl, rfl⟩

/-- The identified elements stand in document order. -/
theorem map_handle_identified_sublist (conventions : Conventions) (document : Document)
    : ((conventions.identified document).map Identified.handle).Sublist
        (document.listing Document.root) := by
  have hguard (handle : ElementId)
      : (conventions.identify? document handle).map Identified.handle
        = Option.guard (fun handle => (conventions.identify? document handle).isSome) handle := by
    cases h : conventions.identify? document handle with
    | none => simp [Option.guard, h]
    | some entry => simp [Option.guard, h, (identify?_eq_some_iff.1 h).1]
  rw [identified, List.map_filterMap]
  simp only [hguard, List.filterMap_eq_filter]
  exact List.filter_sublist

/-- No element is identified exactly if no element at all has an identifier.
Witness: the listing of the root has every element.
-/
theorem identified_eq_nil_iff
    : conventions.identified document = []
      ↔ ∀ handle element,
          document.element? handle = some element → conventions.findId? element = none := by
  rw [identified, List.filterMap_eq_nil_iff]
  constructor
  · intro hnone handle element helement
    have hlt := (Array.getElem?_eq_some_iff.1 helement).1
    have hidentify := hnone handle (Document.mem_listing_root hlt)
    cases hid : conventions.findId? element with
    | none => rfl
    | some id =>
        have hsome : conventions.identify? document handle = some ⟨id, handle, element⟩ :=
          identify?_eq_some_iff.2 ⟨rfl, helement, hid⟩
        rw [hidentify] at hsome
        exact absurd hsome (Option.some_ne_none _).symm
  · intro hall handle _
    rw [Option.eq_none_iff_forall_ne_some]
    intro entry hentry
    obtain ⟨-, helement, hid⟩ := identify?_eq_some_iff.1 hentry
    rw [hall handle entry.element helement] at hid
    exact absurd hid (Option.some_ne_none _).symm

theorem isEmpty_collect_iff
    : (conventions.collect document).isEmpty = true ↔ conventions.identified document = [] := by
  rw [Registry.isEmpty, nodes_collect, List.isEmpty_iff, List.mapIdx_eq_nil_iff,
    firstOfEach_eq_nil_iff]

/-- The handles of the nodes increase in document order. -/
theorem pairwise_position_collect (conventions : Conventions) (document : Document)
    : ((conventions.collect document).nodes.map fun node =>
        document.position node.element).Pairwise (· < ·) := by
  have hnodes : (conventions.collect document).nodes.map Node.element
      = (firstOfEach Identified.id (conventions.identified document)).map Identified.handle := by
    refine List.ext_getElem? fun order => ?_
    simp [nodes_collect, registration, Registration.node, Function.comp_def]
  have hsublist : ((conventions.collect document).nodes.map Node.element).Sublist
      (document.listing Document.root) := by
    rw [hnodes]
    exact ((firstOfEach_sublist _ _).map _).trans
      (conventions.map_handle_identified_sublist document)
  simpa [Function.comp_def] using Document.pairwise_position_of_sublist hsublist

-----------------------------------------------------------------------------------------
-- Children of the root
-----------------------------------------------------------------------------------------

/-- What a child of the root is registered with, under its tag and position. -/
def childRegistration (conventions : Conventions) (document : Document) (index : Nat)
    (handle : ElementId)
    : Registration :=
  let element := (document.element? handle).getD document.rootElement
  ⟨.synthetic element.tag index, conventions.labelFor element none, element.tag, handle⟩

theorem exists_element_of_mem_children {id child : ElementId}
    (h : child ∈ document.children id)
    : ∃ element, document.element? child = some element :=
  ⟨_, Array.getElem?_eq_getElem (Document.lt_of_mem_children h).2⟩

theorem children_rootElement (document : Document)
    : document.rootElement.children = document.children Document.root := by
  simp [Document.rootElement, Document.children, childrenAt, Document.root,
    Array.getElem?_eq_getElem document.isTree.nonempty]

theorem synthesize_eq_foldl (conventions : Conventions) (document : Document)
    : conventions.synthesize document
      = ((document.children Document.root).mapIdx
          (conventions.childRegistration document)).foldl Registry.add .empty := by
  rw [synthesize, children_rootElement, List.mapIdx_eq_zipIdx_map, List.foldl_map]
  refine List.foldl_ext _ _ _ fun registry child hchild => ?_
  obtain ⟨element, helement⟩ := exists_element_of_mem_children
    (List.fst_mem_of_mem_zipIdx hchild)
  simp [synthesizeChild, childRegistration, Registry.add, helement]

/-- No two children of the root get the same identifier, whatever their tags. -/
theorem nodup_ids_childRegistration (conventions : Conventions) (document : Document)
    (handles : List ElementId)
    : ((handles.mapIdx (conventions.childRegistration document)).map Registration.id).Nodup := by
  rw [List.Nodup, List.pairwise_iff_getElem]
  intro first second hfirst hsecond hlt heq
  simp only [List.getElem_map, List.getElem_mapIdx, childRegistration] at heq
  exact Nat.ne_of_lt hlt (Id.synthetic_injective heq).2

/-- Every child of the root becomes a node at its own position. -/
theorem nodes_synthesize (conventions : Conventions) (document : Document)
    : (conventions.synthesize document).nodes
      = (document.children Document.root).mapIdx fun index handle =>
          (conventions.childRegistration document index handle).node index := by
  rw [Registry.nodes_eq_mapIdx, synthesize_eq_foldl, Registry.registrations_ofCalls,
    firstOfEach_eq_self (conventions.nodup_ids_childRegistration document _),
    List.mapIdx_mapIdx]
  rfl

end Conventions

-----------------------------------------------------------------------------------------
-- The nodes of a graph
-----------------------------------------------------------------------------------------

/-- A graph that was built has the first element of each identifier as its nodes, in document
order, if there is an identifier at all.  Otherwise its nodes are made up, one for each child of
the root, and none is lost.
-/
theorem Settings.nodes_of_buildGraph {settings : Settings} {document : Document} {graph : Graph}
    (h : settings.buildGraph document = .ok graph)
    : ((∃ handle element id,
          document.element? handle = some element
          ∧ settings.conventions.findId? element = some id)
        → graph.synthesized = false
          ∧ graph.nodes.nodes
            = (firstOfEach Conventions.Identified.id
                (settings.conventions.identified document)).mapIdx (fun order entry =>
                  {
                    id := entry.id
                    label :=
                      settings.conventions.labelFor entry.element (some entry.element.tag)
                    tag := entry.element.tag
                    order
                    element := entry.handle
                  })
          ∧ (graph.nodes.nodes.map fun node =>
              document.position node.element).Pairwise (· < ·))
      ∧ ((¬ ∃ handle element id,
            document.element? handle = some element
            ∧ settings.conventions.findId? element = some id)
          → graph.synthesized = true
            ∧ graph.nodes.nodes.length = (document.children Document.root).length
            ∧ ∀ (index : Nat) (handle : ElementId),
                (document.children Document.root)[index]? = some handle
                → ∃ element,
                    document.element? handle = some element
                    ∧ graph.nodes.nodes[index]?
                      = some
                          {
                            id := .synthetic element.tag index
                            label := settings.conventions.labelFor element none
                            tag := element.tag
                            order := index
                            element := handle
                          }) := by
  have hnodes := nodesOf_of_buildGraph h
  have hcollected : settings.conventions.identified document = []
      ↔ ¬ ∃ handle element id,
            document.element? handle = some element
            ∧ settings.conventions.findId? element = some id := by
    rw [Conventions.identified_eq_nil_iff]
    simp [Option.eq_none_iff_forall_ne_some]
  rw [← hcollected, ← not_iff_comm.1 hcollected.symm, ← Conventions.isEmpty_collect_iff]
  unfold Conventions.nodesOf at hnodes
  refine ⟨fun hsome => ?_, fun hnone => ?_⟩
  · rw [if_neg hsome, Prod.mk.injEq] at hnodes
    obtain ⟨hgraph, hsynthesized⟩ := hnodes
    refine ⟨hsynthesized.symm, ?_, ?_⟩
    · rw [← hgraph, Conventions.nodes_collect]
      rfl
    · rw [← hgraph]
      exact settings.conventions.pairwise_position_collect document
  · rw [if_pos hnone, Prod.mk.injEq] at hnodes
    obtain ⟨hgraph, hsynthesized⟩ := hnodes
    refine ⟨hsynthesized.symm, ?_, ?_⟩
    · rw [← hgraph, Conventions.nodes_synthesize, List.length_mapIdx]
    · intro index handle hhandle
      obtain ⟨element, helement⟩ :=
        Conventions.exists_element_of_mem_children (List.mem_of_getElem? hhandle)
      refine ⟨element, helement, ?_⟩
      rw [← hgraph, Conventions.nodes_synthesize, List.getElem?_mapIdx, hhandle]
      simp [Conventions.childRegistration, helement, Registration.node]

/-- A story with one identified scene, and a story whose two parts have tags that could be taken
for names of each other. -/
theorem Settings.nodes_of_buildGraph_of_two_stories
    : (∃ graph : Graph,
        ({ conventions := .arrowMarkers } : Settings).buildGraph
            ((Document.new "story" .empty).addChild 0 "scene" (.ofList [("id", "start")])).1
          = .ok graph
        ∧ graph.synthesized = false)
      ∧ ∃ graph : Graph,
          ({ conventions := .arrowMarkers } : Settings).buildGraph
              (((Document.new "story" .empty).addChild 0 "a_1" .empty).1.addChild 0 "a"
                .empty).1
            = .ok graph
          ∧ graph.synthesized = true
          ∧ graph.nodes.nodes.length = 2
          ∧ graph.nodes.nodes[1]?.map Node.id = some ⟨"a_1"⟩ := by
  obtain ⟨pattern, usable⟩ := Conventions.pattern_arrowMarkers
  have build (document : Document)
      : ∃ graph : Graph,
          ({ conventions := .arrowMarkers } : Settings).buildGraph document = .ok graph :=
    ⟨_, buildGraph_of_pattern usable document⟩
  constructor
  · obtain ⟨graph, h⟩ := build
      ((Document.new "story" .empty).addChild 0 "scene" (.ofList [("id", "start")])).1
    have hid : Conventions.arrowMarkers.findId?
          { tag := "scene", attributes := .ofList [("id", "start")], parent := some 0 }
        = some ⟨"start"⟩ := by
      decide +kernel
    exact ⟨graph, h, ((nodes_of_buildGraph h).1 ⟨1, _, _, rfl, hid⟩).1⟩
  · obtain ⟨graph, h⟩ := build
      (((Document.new "story" .empty).addChild 0 "a_1" .empty).1.addChild 0 "a" .empty).1
    have hnone : Conventions.arrowMarkers.identified
          (((Document.new "story" .empty).addChild 0 "a_1" .empty).1.addChild 0 "a" .empty).1
        = [] := by
      rw [Conventions.identified, ← Document.descendants_eq_listing]
      rfl
    have hmissing := Conventions.identified_eq_nil_iff.1 hnone
    obtain ⟨hsynthesized, hlength, hnodes⟩ := (nodes_of_buildGraph h).2 (by
      rintro ⟨handle, element, id, helement, hid⟩
      exact Option.some_ne_none id (hid.symm.trans (hmissing handle element helement)))
    obtain ⟨element, helement, hnode⟩ := hnodes 1 2 rfl
    have htag : element.tag = "a" := congrArg Element.tag (Option.some.inj helement).symm
    have hname : Id.synthetic "a" 1 = ⟨"a_1"⟩ := by decide +kernel
    refine ⟨graph, h, hsynthesized, hlength, ?_⟩
    rw [hnode, Option.map_some, htag, hname]

end StoryAtlas
