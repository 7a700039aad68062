import Mathlib.Data.List.Nodup
import Mathlib.Data.List.Perm.Subperm
import StoryAtlas.Document

/-! The walk of a document against its recursive listing.
Every element has one parent and stands behind it, so the listing of the root has each element
once.  The walk with a stack of pending handles follows the listings of these handles one after
the other, and its bound is the length of the listing of the root.
-/

namespace StoryAtlas.Document

variable {document : Document}

-----------------------------------------------------------------------------------------
-- The elements of a listing
-----------------------------------------------------------------------------------------

theorem listing_eq (document : Document) (id : ElementId)
    : document.listing id = id :: (document.children id).flatMap document.listing := by
  rw [listing, List.flatMap_subtype (g := document.listing) fun _ _ => rfl, List.unattach_attach]

/-- Induction on an element from its children, which ends because children stand behind it. -/
theorem children_induction {motive : ElementId → Prop} (document : Document)
    (step : ∀ id, (∀ child ∈ document.children id, motive child) → motive id) (id : ElementId)
    : motive id := by
  induction hn : document.size - id using Nat.strongRecOn generalizing id with
  | ind n ih =>
      refine step id fun child hchild => ih (document.size - child) ?_ child rfl
      obtain ⟨hlt, hsize⟩ := lt_of_mem_children hchild
      exact hn ▸ Nat.sub_lt_sub_left (Nat.lt_trans hlt hsize) hlt

theorem mem_listing_iff {id other : ElementId}
    : other ∈ document.listing id
      ↔ other = id ∨ ∃ child ∈ document.children id, other ∈ document.listing child := by
  rw [listing_eq, List.mem_cons, List.mem_flatMap]

theorem self_mem_listing (id : ElementId) : id ∈ document.listing id :=
  mem_listing_iff.2 (Or.inl rfl)

theorem le_of_mem_listing {id other : ElementId} (h : other ∈ document.listing id)
    : id ≤ other := by
  induction id using children_induction document with
  | step id ih =>
      rcases mem_listing_iff.1 h with rfl | ⟨child, hchild, hmem⟩
      · exact Nat.le_refl _
      · exact Nat.le_of_lt (Nat.lt_of_lt_of_le (lt_of_mem_children hchild).1 (ih child hchild hmem))

theorem lt_size_of_mem_listing {id other : ElementId} (hid : id < document.size)
    (h : other ∈ document.listing id)
    : other < document.size := by
  induction id using children_induction document with
  | step id ih =>
      rcases mem_listing_iff.1 h with rfl | ⟨child, hchild, hmem⟩
      · exact hid
      · exact ih child hchild (lt_of_mem_children hchild).2 hmem

/-- A listing goes on from an element to its children. -/
theorem child_mem_listing {id parent child : ElementId} (hparent : parent ∈ document.listing id)
    (hchild : child ∈ document.children parent)
    : child ∈ document.listing id := by
  induction id using children_induction document with
  | step id ih =>
      rcases mem_listing_iff.1 hparent with rfl | ⟨next, hnext, hmem⟩
      · exact mem_listing_iff.2 (Or.inr ⟨child, hchild, self_mem_listing child⟩)
      · exact mem_listing_iff.2 (Or.inr ⟨next, hnext, ih next hnext hmem⟩)

/-- An element listed below another one has its parent listed there. -/
theorem parent_mem_listing {id other : ElementId} (h : other ∈ document.listing id)
    (hne : other ≠ id)
    : ∃ parent ∈ document.listing id, document.parent? other = some parent := by
  induction id using children_induction document with
  | step id ih =>
      rcases mem_listing_iff.1 h with rfl | ⟨child, hchild, hmem⟩
      · exact absurd rfl hne
      · by_cases hother : other = child
        · exact ⟨id, self_mem_listing id, hother ▸ mem_children_iff.1 hchild⟩
        · obtain ⟨parent, hparent, hlink⟩ := ih child hchild hmem hother
          exact ⟨parent, mem_listing_iff.2 (Or.inr ⟨child, hchild, hparent⟩), hlink⟩

/-- The listings of two children of an element have nothing in common, by induction on the common
element: going up to its parent, one would reach the element itself below a child of it.
-/
theorem disjoint_listing {id first second other : ElementId}
    (hfirst : first ∈ document.children id) (hsecond : second ∈ document.children id)
    (hne : first ≠ second) (hother : other ∈ document.listing first)
    : other ∉ document.listing second := by
  induction other using Nat.strongRecOn with
  | ind other ih =>
      intro hmem
      have habove {child : ElementId} (hchild : child ∈ document.children id)
          : id ∉ document.listing child := fun hid =>
        Nat.not_lt.2 (le_of_mem_listing hid) (lt_of_mem_children hchild).1
      by_cases heq : other = first
      · subst heq
        obtain ⟨parent, hparent, hlink⟩ := parent_mem_listing hmem hne
        rw [mem_children_iff.1 hfirst, Option.some.injEq] at hlink
        exact habove hsecond (hlink ▸ hparent)
      · obtain ⟨parent, hparent, hlink⟩ := parent_mem_listing hother heq
        by_cases heq' : other = second
        · subst heq'
          rw [mem_children_iff.1 hsecond, Option.some.injEq] at hlink
          exact habove hfirst (hlink ▸ hparent)
        · obtain ⟨parent', hparent', hlink'⟩ := parent_mem_listing hmem heq'
          rw [hlink, Option.some.injEq] at hlink'
          subst hlink'
          exact ih parent (document.isTree.parent_lt hlink) hparent hparent'

theorem nodup_children (document : Document) (id : ElementId) : (document.children id).Nodup :=
  (document.isTree.increasing id).imp Nat.ne_of_lt

/-- A listing has no element twice, by induction on the element that is listed. -/
theorem nodup_listing (document : Document) (id : ElementId) : (document.listing id).Nodup := by
  induction id using children_induction document with
  | step id ih =>
      rw [listing_eq, List.nodup_cons, List.nodup_flatMap]
      refine ⟨?_, ih, ?_⟩
      · intro hmem
        obtain ⟨child, hchild, hid⟩ := List.mem_flatMap.1 hmem
        exact Nat.not_lt.2 (le_of_mem_listing hid) (lt_of_mem_children hchild).1
      · refine (document.nodup_children id).imp_of_mem fun hfirst hsecond hne => ?_
        exact fun other hother => disjoint_listing hfirst hsecond hne hother

/-- The listing of the root has every element, by induction along the parents. -/
theorem mem_listing_root {id : ElementId} (h : id < document.size)
    : id ∈ document.listing root := by
  induction id using Nat.strongRecOn with
  | ind id ih =>
      rcases Nat.eq_zero_or_pos id with rfl | hpos
      · exact self_mem_listing root
      · obtain ⟨parent, hparent⟩ := document.isTree.parented hpos h
        have hlt := document.isTree.parent_lt hparent
        exact child_mem_listing (ih parent hlt (Nat.lt_trans hlt h))
          (mem_children_iff.2 hparent)

theorem root_lt_size (document : Document) : root < document.size :=
  document.isTree.nonempty

theorem mem_listing_root_iff {id : ElementId}
    : id ∈ document.listing root ↔ id < document.size :=
  ⟨lt_size_of_mem_listing document.root_lt_size, mem_listing_root⟩

/-- The listing of the root has as many entries as the document has elements. -/
theorem length_listing_root (document : Document)
    : (document.listing root).length = document.size := by
  have hperm : (document.listing root).Perm (List.range document.size) :=
    (List.perm_ext_iff_of_nodup (document.nodup_listing root) List.nodup_range).2 fun id => by
      rw [mem_listing_root_iff, List.mem_range]
  rw [hperm.length_eq, List.length_range]

-----------------------------------------------------------------------------------------
-- The walk
-----------------------------------------------------------------------------------------

/-- A walk gives the listings of the pending handles, cut to its number of steps. -/
theorem walk_eq_take (document : Document) (steps : Nat) (pending : List ElementId)
    : document.walk steps pending = (pending.flatMap document.listing).take steps := by
  induction steps generalizing pending with
  | zero => rfl
  | succ steps ih =>
      cases pending with
      | nil => rfl
      | cons id rest =>
          rw [walk, ih, List.flatMap_append, List.flatMap_cons, listing_eq, List.cons_append,
            List.take_succ_cons]

/-- The walk of a document is the listing of its root. -/
theorem descendants_eq_listing (document : Document)
    : document.descendants = document.listing root := by
  rw [descendants, walk_eq_take, List.flatMap_singleton]
  exact List.take_of_length_le (Nat.le_of_eq document.length_listing_root)

-----------------------------------------------------------------------------------------
-- Document order
-----------------------------------------------------------------------------------------

/-- The place of an element in document order. -/
def position (document : Document) (id : ElementId) : Nat :=
  (document.listing root).idxOf id

/-- Elements listed in document order have increasing places. -/
theorem pairwise_position_of_sublist {ids : List ElementId}
    (h : ids.Sublist (document.listing root))
    : (ids.map document.position).Pairwise (· < ·) := by
  rw [List.pairwise_map]
  refine List.Pairwise.sublist h ?_
  rw [List.pairwise_iff_getElem]
  intro first second hfirst hsecond hlt
  have hnodup := document.nodup_listing root
  simpa [position, hnodup.idxOf_getElem] using hlt

end StoryAtlas.Document
