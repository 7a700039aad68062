import StoryAtlas.Markup.Reader
import StoryAtlas.Proofs.Document.Growth
import StoryAtlas.Proofs.Outcome

/-! Reading keeps document order.
The open elements of a reader are the path from the root to the place where the document grows:
each of them has grown since its start tag, and everything behind it stands below it.  So every
step adds its element behind all others, and a text is read into a document whose elements are
numbered as they are listed.
-/

namespace StoryAtlas

namespace Document

-----------------------------------------------------------------------------------------
-- The place where a document grows
-----------------------------------------------------------------------------------------

/-- A document grows at the end of a path of elements, of which the innermost one comes first.
Everything added since the innermost element was there has been added below it; without it the
document grew at the rest of the path.  Behind a finished root there is no such place.
-/
inductive GrowsAt : Document → List ElementId → Prop
  | root {document : Document} {tag text : String} {attributes : Attributes}
      {forest : List Tree} (grown : Grows (.new tag attributes) document root text forest)
      : GrowsAt document [Document.root]
  | child {middle document : Document} {parent : ElementId} {others : List ElementId}
      {tag text : String} {attributes : Attributes} {forest : List Tree}
      (outer : GrowsAt middle (parent :: others))
      (grown : Grows (middle.addChild parent tag attributes).1 document middle.size text forest)
      : GrowsAt document (middle.size :: parent :: others)
  | finished {document : Document} {tag text : String} {attributes : Attributes}
      {forest : List Tree} (grown : Grows (.new tag attributes) document root text forest)
      : GrowsAt document []

namespace GrowsAt

variable {document middle : Document} {id parent : ElementId} {others : List ElementId}

theorem new (tag : String) (attributes : Attributes)
    : GrowsAt (.new tag attributes) [Document.root] :=
  .root (.refl _ _)

/-- The innermost element of the path is one of the document. -/
theorem lt_size (h : GrowsAt document (id :: others)) : id < document.size := by
  generalize hpath : id :: others = path at h
  induction h generalizing id others with
  | root grown =>
      obtain ⟨rfl, -⟩ := List.cons.inj hpath
      exact root_lt_size _
  | child outer grown ih =>
      obtain ⟨rfl, -⟩ := List.cons.inj hpath
      have hsize := grown.size_le
      rw [size_addChild (ih rfl)] at hsize
      exact hsize
  | finished grown => exact absurd hpath (List.cons_ne_nil id others)

/-- What grows below the innermost element leaves the path as it is. -/
theorem extend {text : String} {forest : List Tree} (h : GrowsAt middle (id :: others))
    (grown : Grows middle document id text forest)
    : GrowsAt document (id :: others) := by
  cases h with
  | root first => exact .root (first.trans (root_lt_size _) grown)
  | child outer first =>
      refine .child outer (first.trans ?_ grown)
      rw [size_addChild outer.lt_size]
      exact Nat.lt_succ_self _

theorem appendText (h : GrowsAt document (id :: others)) (text : String)
    : GrowsAt (document.appendText id text) (id :: others) :=
  h.extend (.appendText document id text)

/-- A new child is the end of a longer path. -/
theorem openChild (h : GrowsAt document (id :: others)) (tag : String) (attributes : Attributes)
    : GrowsAt (document.addChild id tag attributes).1 (document.size :: id :: others) :=
  .child h (.refl _ _)

/-- The path goes on without its innermost element, which is a child of the one before it. -/
theorem leave (h : GrowsAt document (id :: others)) : GrowsAt document others := by
  cases h with
  | root grown => exact .finished grown
  | child outer grown => exact outer.extend (.addChild outer.lt_size grown)

theorem addChild (h : GrowsAt document (id :: others)) (tag : String) (attributes : Attributes)
    : GrowsAt (document.addChild id tag attributes).1 (id :: others) :=
  (h.openChild tag attributes).leave

/-- When the root is finished, the elements are listed as they are numbered. -/
theorem descendants_eq (h : GrowsAt document [])
    : document.descendants = List.range document.size := by
  cases h with
  | finished grown => exact grown.tree_root.2

end GrowsAt

end Document

namespace Markup

-----------------------------------------------------------------------------------------
-- Reading
-----------------------------------------------------------------------------------------

namespace Reader

/-- The document of a reader grows at the end of its open elements; without a document there are
none.
-/
def InOrder (reader : Reader) : Prop :=
  match reader.root with
  | none => reader.opened = []
  | some root => root.document.GrowsAt (reader.opened.map OpenElement.id)

theorem inOrder_start : InOrder {} := rfl

namespace InOrder

variable {reader next : Reader} {element : OpenElement}

/-- The element of a tag is a child of the innermost open element or the root, and the document
grows inside it or behind it.
-/
theorem addElement {content : List Char} {span : Span} (h : reader.InOrder)
    (hadd : reader.addElement content span = .ok (next, element))
    : next.InOrder ∧ InOrder { next with opened := element :: next.opened } := by
  unfold Reader.addElement at hadd
  unfold InOrder at h
  cases hroot : reader.root with
  | none =>
      rw [hroot] at h
      simp only [hroot] at hadd
      obtain ⟨rfl, rfl⟩ := Prod.mk.inj (Except.ok.inj hadd)
      have hnew := Document.GrowsAt.new (String.ofList (tagName content))
        (Attributes.ofList (readTag reader.entities span (attributesOf content)).1)
      simp only [InOrder, h]
      exact ⟨hnew.leave, hnew⟩
  | some root =>
      rw [hroot] at h
      cases hopened : reader.opened with
      | nil => simp [hroot, hopened] at hadd
      | cons parent others =>
          simp only [hroot, hopened] at hadd
          obtain ⟨rfl, rfl⟩ := Prod.mk.inj (Except.ok.inj hadd)
          rw [hopened] at h
          simp only [InOrder, Document.handle_addChild]
          exact ⟨h.addChild _ _, h.openChild _ _⟩

theorem addText {text : List Char} {span : Span} (h : reader.InOrder)
    (hadd : reader.addText text span = .ok next)
    : next.InOrder := by
  unfold Reader.addText at hadd
  split at hadd
  · next root parent others hroot hopened =>
      obtain rfl := Except.ok.inj hadd
      simp only [InOrder, hroot, hopened] at h ⊢
      exact h.appendText _
  · split at hadd
    · exact Except.ok.inj hadd ▸ h
    · split at hadd <;> cases hadd

theorem closeElement {content : List Char} {span : Span} (h : reader.InOrder)
    (hclose : reader.closeElement content span = .ok next)
    : next.InOrder := by
  unfold Reader.closeElement at hclose
  cases hopened : reader.opened with
  | nil => simp [hopened] at hclose
  | cons element others =>
      rw [hopened] at hclose
      obtain ⟨-, hleft⟩ | ⟨-, hfault⟩ := ite_eq_iff.1 hclose
      · obtain rfl := Except.ok.inj hleft
        cases hroot : reader.root with
        | none => simp [InOrder, hroot, hopened] at h
        | some root =>
            simp only [InOrder, hroot, hopened, List.map_cons] at h ⊢
            exact h.leave
      · cases hfault

/-- Every token keeps the document in order. -/
theorem step {lexeme : Lexeme} (h : reader.InOrder) (hstep : reader.step lexeme = .ok next)
    : next.InOrder := by
  unfold Reader.step at hstep
  split at hstep
  case h_1 =>
    obtain ⟨added, hadd, hopen⟩ := exists_of_bind_eq_ok hstep
    exact Except.ok.inj hopen ▸ (h.addElement hadd).2
  case h_2 =>
    obtain ⟨added, hadd, hleave⟩ := exists_of_bind_eq_ok hstep
    exact Except.ok.inj hleave ▸ (h.addElement hadd).1
  case h_3 => exact h.closeElement hstep
  case h_4 => exact h.addText hstep
  case h_5 => exact h.addText hstep
  case h_6 =>
    split at hstep
    · exact h.addText hstep
    · exact Except.ok.inj hstep ▸ h
  all_goals exact Except.ok.inj hstep ▸ h

/-- A reader ends only with a finished root. -/
theorem finish {ending : Ending} {document : Document} (h : reader.InOrder)
    (hfinish : reader.finish ending = .ok document)
    : document.GrowsAt [] := by
  unfold Reader.finish at hfinish
  split at hfinish
  · cases hfinish
  · split at hfinish
    · cases hfinish
    · cases hfinish
    · next root hopened hroot =>
        split at hfinish
        · obtain rfl := Except.ok.inj hfinish
          simpa only [InOrder, hroot, hopened, List.map_nil] using h
        · cases hfinish

end InOrder

end Reader

/-- A text is read into a document that has grown at its end. -/
theorem growsAt_of_readSource {source : String} {document : Document}
    (h : readSource source = .ok document)
    : document.GrowsAt [] := by
  obtain ⟨reader, hrun, hfinish⟩ := exists_of_bind_eq_ok h
  exact (foldlM_induction Reader.InOrder.step Reader.inOrder_start hrun).finish hfinish

/-- The elements of a document are numbered as they are listed. -/
structure NumberedInOrder (document : Document) : Prop where
  descendants : document.descendants = List.range document.size
  /-- No element is left when all have been listed. -/
  exhausted
    : ∀ steps, document.size ≤ steps → document.walk steps [Document.root] = document.descendants
  /-- The root is the only element without a parent. -/
  rooted : ∀ id, id < document.size → (document.parent? id = none ↔ id = Document.root)
  /-- Any other element is one child of an earlier element. -/
  parented
    : ∀ id,
        id < document.size
        → id ≠ Document.root
        → ∃ parent,
            parent < id
            ∧ document.parent? id = some parent
            ∧ (document.children parent).count id = 1
  increasing : ∀ id, id < document.size → (document.children id).Pairwise (· < ·)

/-- A text that is accepted is read into a document in document order. -/
theorem numberedInOrder_of_parse {source : String} {document : Document}
    (h : parse source = .ok document)
    : NumberedInOrder document := by
  have hread : readSource source = .ok document := mapError_eq_ok_iff.mp h
  have htree := document.isTree
  refine ⟨(growsAt_of_readSource hread).descendants_eq, ?_, ?_, ?_, ?_⟩
  · intro steps hsteps
    rw [Document.descendants_eq_listing, Document.walk_eq_take, List.flatMap_singleton]
    exact List.take_of_length_le (document.length_listing_root ▸ hsteps)
  · intro id hid
    constructor
    · intro hnone
      by_contra hne
      obtain ⟨parent, hparent⟩ := htree.parented (Nat.pos_of_ne_zero hne) hid
      rw [Document.parent?, hparent] at hnone
      cases hnone
    · rintro rfl
      cases hparent : document.parent? Document.root with
      | none => rfl
      | some parent => exact absurd (htree.parent_lt hparent) (Nat.not_lt_zero parent)
  · intro id hid hne
    obtain ⟨parent, hparent⟩ := htree.parented (Nat.pos_of_ne_zero hne) hid
    refine ⟨parent, htree.parent_lt hparent, hparent, ?_⟩
    exact List.count_eq_one_of_mem (document.nodup_children parent)
      (Document.mem_children_iff.2 hparent)
  · exact fun id _ => htree.increasing id

/-- An element between two others that are closed at once and an element in it. -/
theorem numberedInOrder_of_parse_nested
    : ∃ document,
        parse "<a>x<b c='1'/><d><e></e></d><f/></a>" = .ok document
        ∧ document.size = 5
        ∧ NumberedInOrder document := by
  have hsize
      : (parse "<a>x<b c='1'/><d><e></e></d><f/></a>").map Document.size = .ok 5 := by
    decide +kernel
  cases h : parse "<a>x<b c='1'/><d><e></e></d><f/></a>" with
  | error fault => simp [h, Except.map] at hsize
  | ok document =>
      rw [h] at hsize
      exact ⟨document, rfl, Except.ok.inj hsize, numberedInOrder_of_parse h⟩

end Markup

end StoryAtlas
