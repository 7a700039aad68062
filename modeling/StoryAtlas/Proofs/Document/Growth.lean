import StoryAtlas.Proofs.Document.Traversal

/-! Documents that grow below one element.
What a document holds is told by the tree below its root.  Content is read into an element by
adding children and text to it, which changes nothing else that was there; growing twice adds the
new children of both times, and text only until there is the first child.
-/

namespace StoryAtlas

/-- An element with its text before the first child, and the elements in it. -/
inductive Tree
  | node (tag : String) (attributes : List (String × String)) (text : String)
    (children : List Tree)

/-- Adds text and children to an element.  As text ends at the first child, the text comes before
the new children.
-/
def Element.extend (element : Element) (text : String) (added : List ElementId) : Element :=
  { element.appendText text with children := element.children ++ added }

@[simp]
theorem Element.extend_nil (element : Element) (text : String)
    : element.extend text [] = element.appendText text := by
  unfold extend appendText
  split <;> simp

@[simp]
theorem Element.appendText_empty (element : Element) : element.appendText "" = element := by
  unfold appendText
  split <;> simp

theorem Element.appendText_appendText (element : Element) (first second : String)
    : (element.appendText first).appendText second = element.appendText (first ++ second) := by
  unfold appendText
  cases h : element.children <;> simp [h, String.append_assoc]

/-- Extending twice.  The second text counts only if there was no child before it. -/
theorem Element.extend_extend (element : Element) (first second : String)
    (added others : List ElementId)
    : (element.extend first added).extend second others
      = element.extend (if added.isEmpty then first ++ second else first) (added ++ others) := by
  cases added with
  | nil =>
      unfold extend appendText
      cases element.children <;> simp [String.append_assoc]
  | cons child rest =>
      unfold extend appendText
      simp

namespace Document

-----------------------------------------------------------------------------------------
-- The tree below an element
-----------------------------------------------------------------------------------------

/-- The tree below an element, an empty one for a handle that is not of this document. -/
def tree (document : Document) (id : ElementId) : Tree :=
  let element := (document.element? id).getD { tag := "", attributes := .empty }
  .node element.tag element.attributes.entries element.text
    ((document.children id).attach.map fun child => document.tree child.1)
termination_by document.size - id
decreasing_by
  obtain ⟨hlt, hsize⟩ := lt_of_mem_children child.2
  exact Nat.sub_lt_sub_left (Nat.lt_trans hlt hsize) hlt

theorem tree_def (document : Document) (id : ElementId)
    : document.tree id
      = let element := (document.element? id).getD { tag := "", attributes := .empty }
        .node element.tag element.attributes.entries element.text
          ((document.children id).map document.tree) := by
  rw [tree, List.map_subtype (g := document.tree) fun _ _ => rfl, List.unattach_attach]

theorem children_eq {document : Document} {id : ElementId} {element : Element}
    (h : document.element? id = some element)
    : document.children id = element.children := by
  rw [element?] at h
  rw [children, childrenAt, h]
  rfl

/-- The tree below an element of the document. -/
theorem tree_eq {document : Document} {id : ElementId} {element : Element}
    (h : document.element? id = some element)
    : document.tree id
      = .node element.tag element.attributes.entries element.text
          (element.children.map document.tree) := by
  rw [tree_def, h, children_eq h]
  rfl

section Congruence

variable {old new : Document} {id : ElementId}

theorem children_congr (h : new.element? id = old.element? id)
    : new.children id = old.children id := by
  rw [element?, element?] at h
  rw [children, children, childrenAt, childrenAt, h]

/-- Elements that are the same in two documents are listed in the same order, by induction on
the element that is listed.
-/
theorem listing_congr (h : ∀ other ∈ old.listing id, new.element? other = old.element? other)
    : new.listing id = old.listing id := by
  induction id using children_induction old with
  | step id ih =>
      rw [listing_eq, listing_eq, children_congr (h id (self_mem_listing id))]
      congr 1
      refine List.flatMap_congr fun child hchild => ih child hchild fun other hother => ?_
      exact h other (mem_listing_iff.2 (Or.inr ⟨child, hchild, hother⟩))

/-- Elements that are the same in two documents make the same tree. -/
theorem tree_congr (h : ∀ other ∈ old.listing id, new.element? other = old.element? other)
    : new.tree id = old.tree id := by
  induction id using children_induction old with
  | step id ih =>
      have hself := h id (self_mem_listing id)
      have hbelow : (old.children id).map new.tree = (old.children id).map old.tree := by
        refine List.map_congr_left fun child hchild => ih child hchild fun other hother => ?_
        exact h other (mem_listing_iff.2 (Or.inr ⟨child, hchild, hother⟩))
      rw [tree_def, tree_def, hself, children_congr hself, hbelow]

end Congruence

-----------------------------------------------------------------------------------------
-- Growing below an element
-----------------------------------------------------------------------------------------

theorem eq_of_element? {first second : Document}
    (h : ∀ id, first.element? id = second.element? id)
    : first = second := by
  have helements : first.elements = second.elements := Array.ext_getElem? h
  cases first
  cases second
  cases helements
  rfl

theorem element?_appendText (document : Document) (id other : ElementId) (text : String)
    : (document.appendText id text).element? other
      = if id = other then (document.element? other).map fun element => element.appendText text
        else document.element? other :=
  Array.getElem?_modify

theorem size_appendText (document : Document) (id : ElementId) (text : String)
    : (document.appendText id text).size = document.size :=
  Array.size_modify

/-- Text that comes in two parts is the same text. -/
theorem appendText_appendText (document : Document) (id : ElementId) (first second : String)
    : (document.appendText id first).appendText id second
      = document.appendText id (first ++ second) := by
  refine eq_of_element? fun other => ?_
  rw [element?_appendText, element?_appendText, element?_appendText]
  split
  · rw [Option.map_map]
    refine congrArg (Option.map · _) (funext fun element => ?_)
    exact Element.appendText_appendText element first second
  · rfl

section AddChild

variable {document : Document} {parent : ElementId} {tag : String} {attributes : Attributes}

theorem handle_addChild : (document.addChild parent tag attributes).2 = document.size := by
  unfold addChild
  split <;> rfl

theorem size_addChild (h : parent < document.size)
    : (document.addChild parent tag attributes).1.size = document.size + 1 := by
  rw [addChild, dif_pos h]
  exact size_grow

theorem element?_addChild (h : parent < document.size) (id : ElementId)
    : (document.addChild parent tag attributes).1.element? id
      = if id = document.size then some { tag, attributes, parent := some parent }
        else
          (document.element? id).map fun element =>
            if parent = id then { element with children := element.children ++ [document.size] }
            else element := by
  rw [addChild, dif_pos h]
  exact getElem?_grow id

end AddChild

/-- One document is another one with text and the trees of a forest added to an element.  The
new elements stand behind the old ones in document order.
-/
structure Grows (old new : Document) (id : ElementId) (text : String) (forest : List Tree)
    : Prop where
  kept : ∀ other, other < old.size → other ≠ id → new.element? other = old.element? other
  extended
    : ∃ added count,
        new.element? id = (old.element? id).map (fun element => element.extend text added)
        ∧ added.map new.tree = forest
        ∧ new.size = old.size + count
        ∧ added.flatMap new.listing = List.range' old.size count

namespace Grows

variable {old middle new : Document} {id : ElementId}

theorem refl (document : Document) (id : ElementId) : Grows document document id "" [] where
  kept _ _ _ := rfl
  extended := ⟨[], 0, by simp, rfl, rfl, rfl⟩

/-- Text alone adds no element. -/
theorem appendText (document : Document) (id : ElementId) (text : String)
    : Grows document (document.appendText id text) id text [] where
  kept other _ hne := by
    rw [element?_appendText, if_neg (Ne.symm hne)]
  extended := by
    refine ⟨[], 0, ?_, rfl, size_appendText document id text, rfl⟩
    rw [element?_appendText, if_pos rfl]
    simp

theorem size_le {text : String} {forest : List Tree} (h : Grows old new id text forest)
    : old.size ≤ new.size := by
  obtain ⟨-, count, -, -, hsize, -⟩ := h.extended
  omega

/-- A child with content is a tree more.  The child is the first new element, and its content
stands behind it.
-/
theorem addChild {tag : String} {attributes : Attributes} {text : String} {forest : List Tree}
    (hid : id < old.size)
    (h : Grows (old.addChild id tag attributes).1 new old.size text forest)
    : Grows old new id "" [.node tag attributes.entries text forest] where
  kept other hother hne := by
    have hlt : other < (old.addChild id tag attributes).1.size := by
      rw [size_addChild hid]
      exact Nat.lt_succ_of_lt hother
    rw [h.kept other hlt (Nat.ne_of_lt hother), element?_addChild hid,
      if_neg (Nat.ne_of_lt hother)]
    simp [Ne.symm hne]
  extended := by
    obtain ⟨added, count, hchild, htrees, hsize, hlisting⟩ := h.extended
    rw [size_addChild hid] at hsize hlisting
    rw [element?_addChild hid, if_pos rfl, Option.map_some] at hchild
    refine ⟨[old.size], count + 1, ?_, ?_, by omega, ?_⟩
    · have hlt : id < (old.addChild id tag attributes).1.size := by
        rw [size_addChild hid]
        exact Nat.lt_succ_of_lt hid
      rw [h.kept id hlt (Nat.ne_of_lt hid), element?_addChild hid, if_neg (Nat.ne_of_lt hid)]
      simp [Element.extend]
    · rw [List.map_singleton, tree_eq hchild, ← htrees]
      simp [Element.extend, Element.appendText]
    · rw [List.flatMap_singleton, listing_eq, List.range'_succ, ← hlisting, children_eq hchild]
      rfl

/-- Growing twice.  What was added first is not below the element any more than before. -/
theorem trans {first second : String} {forest others : List Tree} (hid : id < old.size)
    (h : Grows old middle id first forest) (hnext : Grows middle new id second others)
    : Grows old new id (if forest.isEmpty then first ++ second else first) (forest ++ others)
    where
  kept other hother hne := by
    rw [hnext.kept other (Nat.lt_of_lt_of_le hother h.size_le) hne, h.kept other hother hne]
  extended := by
    obtain ⟨added, count, helement, htrees, hsize, hlisting⟩ := h.extended
    obtain ⟨addedNext, countNext, helementNext, htreesNext, hsizeNext, hlistingNext⟩ :=
      hnext.extended
    have hsame : ∀ child ∈ added, ∀ other ∈ middle.listing child,
        new.element? other = middle.element? other := by
      intro child hchild other hother
      have hmem : other ∈ List.range' old.size count :=
        hlisting ▸ List.mem_flatMap.2 ⟨child, hchild, hother⟩
      rw [List.mem_range'_1] at hmem
      exact hnext.kept other (by omega) (Nat.ne_of_gt (Nat.lt_of_lt_of_le hid hmem.1))
    refine ⟨added ++ addedNext, count + countNext, ?_, ?_, by omega, ?_⟩
    · rw [helementNext, helement, Option.map_map, ← htrees, List.isEmpty_map]
      refine congrArg (Option.map · _) (funext fun element => ?_)
      exact Element.extend_extend element first second added addedNext
    · rw [List.map_append, htreesNext, ← htrees]
      congr 1
      exact List.map_congr_left fun child hchild => tree_congr (hsame child hchild)
    · rw [List.flatMap_append, hlistingNext, hsize, ← List.range'_append_1, ← hlisting]
      congr 1
      exact List.flatMap_congr fun child hchild => listing_congr (hsame child hchild)

/-- A document that has grown from its root holds the root with all that was added to it, and
its elements are numbered in document order.
-/
theorem tree_root {tag : String} {attributes : Attributes} {text : String} {forest : List Tree}
    (h : Grows (.new tag attributes) new root text forest)
    : new.tree root = .node tag attributes.entries text forest
      ∧ new.descendants = List.range new.size := by
  obtain ⟨added, count, hroot, htrees, hsize, hlisting⟩ := h.extended
  have hfirst : (Document.new tag attributes).element? root = some { tag, attributes } := rfl
  have hone : (Document.new tag attributes).size = 1 := rfl
  rw [hfirst, Option.map_some] at hroot
  rw [hone] at hsize hlisting
  constructor
  · rw [tree_eq hroot, ← htrees]
    simp [Element.extend, Element.appendText]
  · rw [descendants_eq_listing, listing_eq, children_eq hroot, List.range_eq_range', hsize,
      Nat.add_comm, List.range'_succ, ← hlisting]
    rfl

end Grows

end Document

end StoryAtlas
