import Mathlib.Data.List.Forall2
import Mathlib.Data.List.Nodup
import StoryAtlas.Proofs.Document.Traversal

/-! Documents that agree on the attributes with given names.
Such documents are the same tree with the same tags and texts, and an element of one of them has
the same value of each of these attributes as the one in its place, or lacks it as well.  In which
order the attributes stand and which others there are does not matter.
-/

namespace StoryAtlas

variable {names : List String}

-----------------------------------------------------------------------------------------
-- Attributes
-----------------------------------------------------------------------------------------

namespace Attributes

variable {attributes other : Attributes}

/-- The value of a name is the one it is written with, as no name is written twice. -/
theorem get?_eq_some_iff {name value : String}
    : attributes.get? name = some value ↔ (name, value) ∈ attributes.entries := by
  obtain ⟨entries, distinct⟩ := attributes
  unfold get?
  induction entries with
  | nil => simp
  | cons entry rest ih =>
      obtain ⟨first, firstValue⟩ := entry
      rw [List.map_cons, List.nodup_cons] at distinct
      rw [List.lookup_cons, List.mem_cons, Prod.mk.injEq]
      by_cases hname : name = first
      · subst hname
        have hrest : (name, value) ∉ rest := fun hmem =>
          distinct.1 (List.mem_map.2 ⟨_, hmem, rfl⟩)
        simp [hrest, eq_comm]
      · have hkey : (name == first) = false := beq_eq_false_iff_ne.2 hname
        simpa [hkey, hname] using ih distinct.2

/-- The same values of some names. -/
def AgreeOn (names : List String) (attributes other : Attributes) : Prop :=
  ∀ name ∈ names, other.get? name = attributes.get? name

theorem AgreeOn.mono {fewer : List String} (h : attributes.AgreeOn names other)
    (hsub : fewer ⊆ names)
    : attributes.AgreeOn fewer other :=
  fun name hname => h name (hsub hname)

/-- The entries with some names. -/
def entriesOf (names : List String) (attributes : Attributes) : List (String × String) :=
  attributes.entries.filter fun entry => entry.1 ∈ names

theorem nodup_entriesOf (names : List String) (attributes : Attributes)
    : (attributes.entriesOf names).Nodup :=
  (List.Nodup.of_map Prod.fst attributes.distinct).filter _

/-- Attributes agree on some names exactly if their entries with these names are the same up to
order.
-/
theorem agreeOn_iff_perm
    : attributes.AgreeOn names other
      ↔ (other.entriesOf names).Perm (attributes.entriesOf names) := by
  rw [List.perm_ext_iff_of_nodup (nodup_entriesOf _ _) (nodup_entriesOf _ _)]
  simp only [entriesOf, List.mem_filter, decide_eq_true_eq, Prod.forall, ← get?_eq_some_iff]
  constructor
  · intro h name value
    exact and_congr_left fun hname => by rw [h name hname]
  · intro h name hname
    refine Option.ext fun value => ?_
    simpa [hname] using h name value

end Attributes

-----------------------------------------------------------------------------------------
-- Elements
-----------------------------------------------------------------------------------------

/-- Elements that differ in their parents and attributes at most, and agree on some names. -/
structure Element.AgreeOn (names : List String) (element other : Element) : Prop where
  tag : other.tag = element.tag
  attributes : element.attributes.AgreeOn names other.attributes
  text : other.text = element.text
  children : other.children = element.children

-----------------------------------------------------------------------------------------
-- Documents
-----------------------------------------------------------------------------------------

namespace Document

/-- Documents with the same elements in the same places, up to attributes with other names than
the given ones.  The parents of the elements follow from their children. -/
def AgreeOn (names : List String) (document other : Document) : Prop :=
  ∀ id, Option.Rel (Element.AgreeOn names) (document.element? id) (other.element? id)

namespace AgreeOn

variable {document other : Document}

/-- A place has an element in none of the documents, or elements that agree. -/
theorem element?_cases (h : document.AgreeOn names other) (id : ElementId)
    : (document.element? id = none ∧ other.element? id = none)
      ∨ ∃ element otherElement,
          document.element? id = some element
          ∧ other.element? id = some otherElement
          ∧ element.AgreeOn names otherElement := by
  have helement := h id
  generalize document.element? id = element? at helement
  generalize other.element? id = otherElement? at helement
  cases helement with
  | none => exact .inl ⟨rfl, rfl⟩
  | some h => exact .inr ⟨_, _, rfl, rfl, h⟩

theorem children_eq (h : document.AgreeOn names other) (id : ElementId)
    : other.children id = document.children id := by
  rcases h.element?_cases id with ⟨hnone, hother⟩ | ⟨element, otherElement, hsome, hother, hagree⟩
  · rw [element?] at hnone hother
    rw [children, children, childrenAt, childrenAt, hnone, hother]
  · rw [element?] at hsome hother
    rw [children, children, childrenAt, childrenAt, hsome, hother]
    exact hagree.children

/-- The documents are listed alike, by induction on the element that is listed. -/
theorem listing_eq (h : document.AgreeOn names other) (id : ElementId)
    : other.listing id = document.listing id := by
  induction id using children_induction document with
  | step id ih =>
      rw [Document.listing_eq, Document.listing_eq, h.children_eq]
      exact congrArg (id :: ·) (List.flatMap_congr ih)

/-- The elements of a list of handles, those of one document beside those of the other. -/
theorem forall₂_filterMap_element? (h : document.AgreeOn names other) (ids : List ElementId)
    : List.Forall₂ (Element.AgreeOn names) (ids.filterMap document.element?)
        (ids.filterMap other.element?) := by
  refine List.rel_filterMap ?_ (List.forall₂_eq_eq_eq ▸ Eq.refl ids)
  rintro id _ rfl
  exact h id

/-- In document order there are the same handles, with elements that agree. -/
theorem forall₂_inOrder (h : document.AgreeOn names other)
    : List.Forall₂
        (fun entry otherEntry =>
          otherEntry.1 = entry.1 ∧ Element.AgreeOn names entry.2 otherEntry.2)
        document.inOrder other.inOrder := by
  rw [inOrder, inOrder, descendants_eq_listing, descendants_eq_listing, h.listing_eq]
  refine List.rel_filterMap ?_ (List.forall₂_eq_eq_eq ▸ Eq.refl (document.listing root))
  rintro id _ rfl
  dsimp only
  rcases h.element?_cases id with ⟨hnone, hother⟩ | ⟨element, otherElement, hsome, hother, hagree⟩
  · rw [hnone, hother]
    exact .none
  · rw [hsome, hother]
    exact .some ⟨rfl, hagree⟩

end AgreeOn

/-- The document with other attributes on its elements. -/
def withAttributes (document : Document) (change : ElementId → Attributes → Attributes)
    : Document where
  elements := document.elements.mapIdx fun id element =>
    { element with attributes := change id element.attributes }
  isTree := by
    refine document.isTree.congr Array.size_mapIdx ?_ ?_
    · intro id
      simp only [childrenAt, Array.getElem?_mapIdx]
      cases document.elements[id]? <;> rfl
    · intro id
      simp only [parentAt, Array.getElem?_mapIdx]
      cases document.elements[id]? <;> rfl

theorem element?_withAttributes (document : Document)
    (change : ElementId → Attributes → Attributes) (id : ElementId)
    : (document.withAttributes change).element? id
      = (document.element? id).map fun element =>
          { element with attributes := change id element.attributes } := by
  simp [withAttributes, element?]

/-- Other attributes that agree with the old ones on every element. -/
theorem agreeOn_withAttributes {document : Document}
    {change : ElementId → Attributes → Attributes}
    (h
      : ∀ id element,
          document.element? id = some element
          → element.attributes.AgreeOn names (change id element.attributes))
    : document.AgreeOn names (document.withAttributes change) := by
  intro id
  rw [element?_withAttributes]
  cases helement : document.element? id with
  | none => exact .none
  | some element => exact .some ⟨rfl, h id element helement, rfl, rfl⟩

end Document

end StoryAtlas
