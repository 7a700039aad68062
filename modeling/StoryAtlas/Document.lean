import StoryAtlas.Attributes

/-! Element trees.
The elements of a document stand in one array in the order of their creation, and a handle is a
position in it.  Child lists and parent links are inverse to each other and every child stands
behind its parent, so the links make a tree; this is part of the type.  The elements are listed
in document order by a walk with a stack of pending handles, and by the plain recursive listing.
-/

namespace StoryAtlas

/-- A position in the array of elements. -/
abbrev ElementId := Nat

/-- A tag with its attributes, the text before its first child, and its place in the tree. -/
structure Element where
  tag : String
  attributes : Attributes
  text : String := ""
  children : List ElementId := []
  parent : Option ElementId := none
deriving DecidableEq

namespace Element

/-- Appends to the text of an element that has no child yet; later text is dropped. -/
def appendText (element : Element) (text : String) : Element :=
  if element.children.isEmpty then { element with text := element.text ++ text } else element

@[simp]
theorem children_appendText (element : Element) (text : String)
    : (element.appendText text).children = element.children := by
  unfold appendText
  split <;> rfl

@[simp]
theorem parent_appendText (element : Element) (text : String)
    : (element.appendText text).parent = element.parent := by
  unfold appendText
  split <;> rfl

end Element

/-- The children of the element at a position, none behind the end of the array. -/
def childrenAt (elements : Array Element) (id : ElementId) : List ElementId :=
  (elements[id]?.map Element.children).getD []

/-- The parent of the element at a position. -/
def parentAt (elements : Array Element) (id : ElementId) : Option ElementId :=
  elements[id]?.bind Element.parent

/-- The links between the elements make a tree whose root comes first. -/
structure IsTree (elements : Array Element) : Prop where
  nonempty : 0 < elements.size
  /-- Child lists and parent links are inverse to each other. -/
  linked
    : ∀ parent child, child ∈ childrenAt elements parent ↔ parentAt elements child = some parent
  /-- Children are listed in the order of their creation, each of them once. -/
  increasing : ∀ parent, (childrenAt elements parent).Pairwise (· < ·)
  parent_lt : ∀ {child parent}, parentAt elements child = some parent → parent < child
  /-- Only the root has no parent. -/
  parented
    : ∀ {child},
        0 < child → child < elements.size → ∃ parent, parentAt elements child = some parent

theorem lt_size_of_parentAt {elements : Array Element} {child parent : ElementId}
    (h : parentAt elements child = some parent) : child < elements.size := by
  obtain ⟨element, hget, -⟩ := Option.bind_eq_some_iff.1 h
  exact (Array.getElem?_eq_some_iff.1 hget).1

namespace IsTree

theorem single (tag : String) (attributes : Attributes) : IsTree #[{ tag, attributes }] where
  nonempty := by simp
  linked parent child := by
    cases parent <;> cases child <;> simp [childrenAt, parentAt]
  increasing parent := by
    cases parent <;> simp [childrenAt]
  parent_lt {child parent} h := by
    cases child <;> simp [parentAt] at h
  parented {child} hpos hlt := by
    simp only [List.size_toArray, List.length_cons, List.length_nil] at hlt
    omega

/-- Elements with the same links are a tree as well. -/
theorem congr {old new : Array Element} (h : IsTree old) (hsize : new.size = old.size)
    (hchildren : ∀ id, childrenAt new id = childrenAt old id)
    (hparent : ∀ id, parentAt new id = parentAt old id)
    : IsTree new where
  nonempty := hsize ▸ h.nonempty
  linked parent child := by
    rw [hchildren, hparent]
    exact h.linked parent child
  increasing parent := hchildren parent ▸ h.increasing parent
  parent_lt {child parent} hp := h.parent_lt (hparent child ▸ hp)
  parented {child} hpos hlt := by
    rw [hparent]
    exact h.parented hpos (hsize ▸ hlt)

end IsTree

/-- The elements with a new one behind them, as the last child of `parent`. -/
def grow (elements : Array Element) (parent : ElementId) (tag : String) (attributes : Attributes)
    : Array Element :=
  let linked := elements.modify parent fun element =>
    { element with children := element.children ++ [elements.size] }
  linked.push { tag, attributes, parent := some parent }

section Grow

variable {elements : Array Element} {parent : ElementId} {tag : String} {attributes : Attributes}

@[simp]
theorem size_grow : (grow elements parent tag attributes).size = elements.size + 1 := by
  simp [grow]

theorem getElem?_grow (id : ElementId)
    : (grow elements parent tag attributes)[id]?
      = if id = elements.size then some { tag, attributes, parent := some parent }
        else
          elements[id]?.map fun element =>
            if parent = id then { element with children := element.children ++ [elements.size] }
            else element := by
  simp only [grow, Array.getElem?_push, Array.size_modify, Array.getElem?_modify]
  split
  · rfl
  · split <;> simp

theorem parentAt_grow (id : ElementId)
    : parentAt (grow elements parent tag attributes) id
      = if id = elements.size then some parent else parentAt elements id := by
  unfold parentAt
  rw [getElem?_grow]
  split
  · rfl
  · cases elements[id]? with
    | none => rfl
    | some element =>
        simp only [Option.map_some, Option.bind_some]
        split <;> rfl

/-- Only the child list of the parent changes. -/
theorem childrenAt_grow (hparent : parent < elements.size) (id : ElementId)
    : childrenAt (grow elements parent tag attributes) id
      = if id = parent then childrenAt elements id ++ [elements.size]
        else childrenAt elements id := by
  unfold childrenAt
  rw [getElem?_grow]
  split
  · next h =>
      subst h
      have hne : elements.size ≠ parent := (Nat.ne_of_lt hparent).symm
      simp [hne]
  · by_cases hid : id = parent
    · subst hid
      simp [Array.getElem?_eq_getElem hparent]
    · simp [hid, Ne.symm hid]

theorem IsTree.grow (h : IsTree elements) (hparent : parent < elements.size)
    : IsTree (grow elements parent tag attributes) where
  nonempty := by simp
  linked other child := by
    rw [childrenAt_grow hparent, parentAt_grow]
    have hold := h.linked other child
    by_cases hnew : child = elements.size
    · have habsent : child ∉ childrenAt elements other := fun hmem =>
        Nat.lt_irrefl _ (hnew ▸ lt_size_of_parentAt (hold.1 hmem))
      subst hnew
      by_cases hother : other = parent
      · simp [hother]
      · simp [hother, habsent, Ne.symm hother]
    · by_cases hother : other = parent
      · subst hother
        simp [hnew, hold]
      · simp [hnew, hother, hold]
  increasing other := by
    rw [childrenAt_grow hparent]
    split
    · refine List.pairwise_append.2 ⟨h.increasing other, List.pairwise_singleton _ _, ?_⟩
      intro child hchild new hnew
      rw [List.mem_singleton.1 hnew]
      exact lt_size_of_parentAt ((h.linked other child).1 hchild)
    · exact h.increasing other
  parent_lt {child other} hp := by
    rw [parentAt_grow] at hp
    split at hp
    · next hnew =>
        cases hp
        exact hnew ▸ hparent
    · exact h.parent_lt hp
  parented {child} hpos hlt := by
    rw [parentAt_grow]
    rw [size_grow] at hlt
    split
    · exact ⟨parent, rfl⟩
    · next hnew => exact h.parented hpos (Nat.lt_of_le_of_ne (Nat.le_of_lt_succ hlt) hnew)

end Grow

/-- A tree of elements with a root. -/
structure Document where
  elements : Array Element
  isTree : IsTree elements

namespace Document

/-- The document that holds only a root element. -/
def new (tag : String) (attributes : Attributes) : Document :=
  ⟨#[{ tag, attributes }], .single tag attributes⟩

/-- The handle of the root element. -/
def root : ElementId := 0

/-- The number of elements. -/
def size (document : Document) : Nat :=
  document.elements.size

/-- A document always has its root. -/
def isEmpty (document : Document) : Bool :=
  document.elements.isEmpty

def element? (document : Document) (id : ElementId) : Option Element :=
  document.elements[id]?

/-- The root element itself. -/
def rootElement (document : Document) : Element :=
  have := document.isTree.nonempty
  document.elements[0]

/-- The handles of the children, none for a handle that is not of this document. -/
def children (document : Document) (id : ElementId) : List ElementId :=
  childrenAt document.elements id

/-- The handle of the parent. -/
def parent? (document : Document) (id : ElementId) : Option ElementId :=
  parentAt document.elements id

theorem mem_children_iff {document : Document} {id child : ElementId}
    : child ∈ document.children id ↔ document.parent? child = some id :=
  document.isTree.linked id child

theorem lt_of_mem_children {document : Document} {id child : ElementId}
    (h : child ∈ document.children id) : id < child ∧ child < document.size := by
  have hparent := mem_children_iff.1 h
  exact ⟨document.isTree.parent_lt hparent, lt_size_of_parentAt hparent⟩

/-- Adds an element as the last child of `parent` and gives back its handle.  A parent that is
not of this document gets no child. -/
def addChild (document : Document) (parent : ElementId) (tag : String) (attributes : Attributes)
    : Document × ElementId :=
  if h : parent < document.size then
    (⟨grow document.elements parent tag attributes, document.isTree.grow h⟩, document.size)
  else (document, document.size)

/-- Appends text to an element without children. -/
def appendText (document : Document) (id : ElementId) (text : String) : Document where
  elements := document.elements.modify id fun element => element.appendText text
  isTree := by
    refine document.isTree.congr Array.size_modify ?_ ?_
    · intro other
      simp only [childrenAt, Array.getElem?_modify]
      split
      · cases document.elements[other]? <;> simp
      · rfl
    · intro other
      simp only [parentAt, Array.getElem?_modify]
      split
      · cases document.elements[other]? <;> simp
      · rfl

/-- Lists handles by a stack: the next pending handle, then its children before the others.  The
first argument bounds the number of steps. -/
def walk (document : Document) : Nat → List ElementId → List ElementId
  | 0, _ => []
  | _ + 1, [] => []
  | steps + 1, id :: pending => id :: document.walk steps (document.children id ++ pending)

/-- All elements in document order.  A tree has as many as a walk has steps. -/
def descendants (document : Document) : List ElementId :=
  document.walk document.size [root]

/-- An element followed by the listings of its children. -/
def listing (document : Document) (id : ElementId) : List ElementId :=
  id :: (document.children id).attach.flatMap fun child => document.listing child.1
termination_by document.size - id
decreasing_by
  obtain ⟨hlt, hsize⟩ := lt_of_mem_children child.2
  exact Nat.sub_lt_sub_left (Nat.lt_trans hlt hsize) hlt

/-- The elements in document order, each with its handle. -/
def inOrder (document : Document) : List (ElementId × Element) :=
  document.descendants.filterMap fun id => (document.element? id).map fun element => (id, element)

end Document

end StoryAtlas
