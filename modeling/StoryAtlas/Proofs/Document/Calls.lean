import Mathlib.Data.List.Count
import Mathlib.Data.List.Induction
import Mathlib.Data.List.TakeWhile
import Mathlib.Logic.Function.Iterate
import StoryAtlas.Proofs.Document.Growth

/-! Documents built by calls.
Children may be added and text appended at any element whose handle was given out before, in any
order.  The document then holds what the calls say: an element for each child that was added, in
the order of the calls, with the texts appended to it before its own first child.  Its walk ends
when every element has been listed.
-/

namespace StoryAtlas.Document

-----------------------------------------------------------------------------------------
-- The end of the walk
-----------------------------------------------------------------------------------------

/-- The pending handles behind one step of a walk. -/
def advance (document : Document) : List ElementId → List ElementId
  | [] => []
  | id :: pending => document.children id ++ pending

theorem flatMap_listing_advance (document : Document) (pending : List ElementId)
    : (document.advance pending).flatMap document.listing
      = (pending.flatMap document.listing).tail := by
  cases pending with
  | nil => rfl
  | cons id rest =>
      rw [advance, List.flatMap_append, List.flatMap_cons, listing_eq, List.cons_append,
        List.tail_cons]

/-- What is still to be listed behind some steps, by induction on these. -/
theorem flatMap_listing_iterate_advance (document : Document) (steps : Nat)
    (pending : List ElementId)
    : (document.advance^[steps] pending).flatMap document.listing
      = (pending.flatMap document.listing).drop steps := by
  induction steps generalizing pending with
  | zero => rfl
  | succ steps ih =>
      rw [Function.iterate_succ_apply, ih, flatMap_listing_advance, List.drop_tail]

theorem head?_flatMap_listing (document : Document) (pending : List ElementId)
    : (pending.flatMap document.listing).head? = pending.head? := by
  cases pending with
  | nil => rfl
  | cons id rest =>
      rw [List.flatMap_cons, listing_eq, List.cons_append, List.head?_cons, List.head?_cons]

/-- A walk from the root has nothing pending exactly if it has made a step for each element. -/
theorem iterate_advance_eq_nil_iff (document : Document) (steps : Nat)
    : document.advance^[steps] [root] = [] ↔ document.size ≤ steps := by
  rw [← List.head?_eq_none_iff, ← head?_flatMap_listing, flatMap_listing_iterate_advance,
    List.flatMap_singleton, List.head?_eq_none_iff, List.drop_eq_nil_iff, length_listing_root]

/-- The walk lists the first pending handle of each of its steps. -/
theorem head?_iterate_advance (document : Document) (steps : Nat)
    : (document.advance^[steps] [root]).head? = document.descendants[steps]? := by
  rw [← head?_flatMap_listing, flatMap_listing_iterate_advance, List.flatMap_singleton,
    List.head?_drop, descendants_eq_listing]

-----------------------------------------------------------------------------------------
-- Calls
-----------------------------------------------------------------------------------------

/-- A call that changes a document. -/
inductive Call
  | addChild (parent : ElementId) (tag : String) (attributes : Attributes)
  | appendText (id : ElementId) (text : String)

namespace Call

/-- The element that a call is made on. -/
def target : Call → ElementId
  | addChild parent _ _ => parent
  | appendText id _ => id

/-- The element that a call adds, as it is before any other call. -/
def newborn? : Call → Option Element
  | addChild parent tag attributes => some { tag, attributes, parent := some parent }
  | appendText _ _ => none

/-- Whether a call adds a child to an element. -/
def addsTo (id : ElementId) : Call → Bool
  | addChild parent _ _ => parent == id
  | appendText _ _ => false

/-- The text that a call appends to an element. -/
def textFor? (id : ElementId) : Call → Option String
  | addChild _ _ _ => none
  | appendText other text => if other = id then some text else none

end Call

/-- A document with the handles that were given out for it. -/
structure Draft where
  document : Document
  handles : List ElementId

namespace Draft

/-- A document that holds only its root. -/
def new (tag : String) (attributes : Attributes) : Draft :=
  ⟨.new tag attributes, [root]⟩

/-- Makes a call, which may give out a handle. -/
def perform (draft : Draft) : Call → Draft
  | .addChild parent tag attributes =>
      let grown := draft.document.addChild parent tag attributes
      ⟨grown.1, draft.handles ++ [grown.2]⟩
  | .appendText id text => ⟨draft.document.appendText id text, draft.handles⟩

/-- Makes one call after the other. -/
def run (draft : Draft) (calls : List Call) : Draft :=
  calls.foldl perform draft

/-- Each of the calls is made on an element whose handle was given out before. -/
def Admits : Draft → List Call → Prop
  | _, [] => True
  | draft, call :: rest => call.target ∈ draft.handles ∧ (draft.perform call).Admits rest

instance decidableAdmits : (draft : Draft) → (calls : List Call) → Decidable (draft.Admits calls)
  | _, [] => isTrue trivial
  | draft, call :: rest =>
      have := decidableAdmits (draft.perform call) rest
      inferInstanceAs (Decidable (call.target ∈ draft.handles ∧ (draft.perform call).Admits rest))

theorem run_concat (draft : Draft) (calls : List Call) (call : Call)
    : draft.run (calls ++ [call]) = (draft.run calls).perform call := by
  simp [run]

theorem admits_append {draft : Draft} {calls others : List Call}
    : draft.Admits (calls ++ others) ↔ draft.Admits calls ∧ (draft.run calls).Admits others := by
  induction calls generalizing draft with
  | nil => simp [Admits, run]
  | cons call rest ih => simp [Admits, ih, run, and_assoc]

end Draft

-----------------------------------------------------------------------------------------
-- What the calls say
-----------------------------------------------------------------------------------------

/-- The elements as they come into being: the root, then each added child. -/
def births (tag : String) (attributes : Attributes) (calls : List Call) : List Element :=
  { tag, attributes } :: calls.filterMap Call.newborn?

/-- The handles of the elements born with a parent, in the order of their birth. -/
def bornOf (parent : ElementId) (births : List Element) : List ElementId :=
  births.zipIdx.filterMap fun (element, handle) =>
    if element.parent = some parent then some handle else none

/-- The texts appended to an element before its first child was added, put together. -/
def leadingText (id : ElementId) (calls : List Call) : String :=
  String.join
    ((calls.takeWhile fun call => !call.addsTo id).filterMap (Call.textFor? id))

section Calls

variable {tag : String} {attributes : Attributes} {calls : List Call} {id : ElementId}

theorem births_concat (tag : String) (attributes : Attributes) (calls : List Call) (call : Call)
    : births tag attributes (calls ++ [call])
      = births tag attributes calls ++ call.newborn?.toList := by
  cases h : call.newborn? <;> simp [births, h]

theorem bornOf_concat (parent : ElementId) (elements : List Element) (element : Element)
    : bornOf parent (elements ++ [element])
      = if element.parent = some parent then bornOf parent elements ++ [elements.length]
        else bornOf parent elements := by
  unfold bornOf
  rw [List.zipIdx_append, List.filterMap_append]
  split <;> simp_all

/-- An element has no child as long as no call adds one to it, by induction from the last call. -/
theorem bornOf_births_eq_nil_iff (tag : String) (attributes : Attributes)
    : bornOf id (births tag attributes calls) = [] ↔ ∀ call ∈ calls, call.addsTo id = false := by
  induction calls using List.reverseRecOn with
  | nil => simp [births, bornOf]
  | append_singleton calls call ih =>
      rw [births_concat]
      cases call with
      | addChild parent tag attributes =>
          simp only [Call.newborn?, Option.toList_some, bornOf_concat, Option.some.injEq]
          by_cases h : parent = id
          · simp [h, Call.addsTo]
          · simp [h, ih, Call.addsTo, or_imp, forall_and]
      | appendText other text =>
          simp [Call.newborn?, ih, Call.addsTo, or_imp, forall_and]

/-- A text goes to the end of the leading text, unless a child was added before. -/
theorem leadingText_concat (id : ElementId) (calls : List Call) (call : Call)
    : leadingText id (calls ++ [call])
      = if ∀ call ∈ calls, call.addsTo id = false then
          leadingText id calls ++ (call.textFor? id).getD ""
        else leadingText id calls := by
  unfold leadingText
  have hself : calls.takeWhile (fun call => !call.addsTo id) = calls
      ↔ ∀ call ∈ calls, call.addsTo id = false := by
    simp [List.takeWhile_eq_self_iff]
  rw [List.takeWhile_append]
  split
  · next h =>
      have heq := (List.takeWhile_prefix _).eq_of_length h
      rw [if_pos (hself.1 heq), heq, List.filterMap_append]
      refine String.toList_inj.1 ?_
      cases call with
      | addChild parent tag attributes =>
          by_cases hparent : parent = id <;> simp [Call.addsTo, Call.textFor?, hparent]
      | appendText other text =>
          by_cases hother : other = id <;> simp [Call.addsTo, Call.textFor?, hother]
  · next h => rw [if_neg fun hnone => h (congrArg List.length (hself.2 hnone))]

theorem leadingText_concat_of_textFor?_eq_none {call : Call} (h : call.textFor? id = none)
    : leadingText id (calls ++ [call]) = leadingText id calls := by
  rw [leadingText_concat, h]
  simp

theorem addsTo_eq_false_of_target_ne {call : Call} (h : call.target ≠ id)
    : call.addsTo id = false := by
  cases call with
  | addChild parent tag attributes => exact beq_false_of_ne h
  | appendText other text => rfl

/-- Calls on other elements give an element no text. -/
theorem leadingText_eq_empty (h : ∀ call ∈ calls, call.target ≠ id)
    : leadingText id calls = "" := by
  have hnone : (calls.takeWhile fun call => !call.addsTo id).filterMap (Call.textFor? id) = [] := by
    refine List.filterMap_eq_nil_iff.2 fun call hcall => ?_
    have htarget := h call ((List.takeWhile_sublist _).mem hcall)
    cases call with
    | addChild parent tag attributes => rfl
    | appendText other text => exact if_neg htarget
  rw [leadingText, hnone]
  rfl

end Calls

-----------------------------------------------------------------------------------------
-- What the document holds
-----------------------------------------------------------------------------------------

/-- The element at a position, as the calls describe it. -/
def described (tag : String) (attributes : Attributes) (calls : List Call) (id : ElementId)
    : Option Element :=
  (births tag attributes calls)[id]?.map fun element =>
    {
      element with
      text := leadingText id calls
      children := bornOf id (births tag attributes calls)
    }

/-- A draft holds the elements that the calls describe, and its handles are theirs.  The calls
were made on these elements only.
-/
structure Draft.Follows (draft : Draft) (tag : String) (attributes : Attributes)
    (calls : List Call)
    : Prop where
  size : draft.document.size = (births tag attributes calls).length
  handles : draft.handles = List.range draft.document.size
  elements : ∀ id, draft.document.element? id = described tag attributes calls id
  targets : ∀ call ∈ calls, call.target < draft.document.size

namespace Draft.Follows

variable {draft : Draft} {tag : String} {attributes : Attributes} {calls : List Call}

theorem new (tag : String) (attributes : Attributes)
    : (Draft.new tag attributes).Follows tag attributes [] where
  size := rfl
  handles := rfl
  elements id := by
    cases id with
    | zero => rfl
    | succ id => rfl
  targets := by simp

theorem target_lt (h : draft.Follows tag attributes calls) {call : Call}
    (hcall : call.target ∈ draft.handles)
    : call.target < draft.document.size := by
  rw [h.handles] at hcall
  exact List.mem_range.1 hcall

/-- A new child has no text and no child yet, as no call before was made on it; of the others
only its parent is described otherwise.
-/
theorem addChild (h : draft.Follows tag attributes calls) {parent : ElementId}
    (hparent : parent < draft.document.size) (childTag : String) (childAttributes : Attributes)
    : (draft.perform (.addChild parent childTag childAttributes)).Follows tag attributes
        (calls ++ [.addChild parent childTag childAttributes]) where
  size := by
    rw [perform, size_addChild hparent, h.size, births_concat]
    simp [Call.newborn?]
  handles := by
    simp only [perform]
    rw [size_addChild hparent, handle_addChild, List.range_succ, h.handles]
  elements id := by
    simp only [perform]
    rw [element?_addChild hparent, h.elements, described, described, births_concat,
      Call.newborn?, Option.toList_some, bornOf_concat,
      leadingText_concat_of_textFor?_eq_none (by rfl), ← h.size]
    split
    · next hnew =>
        subst hnew
        have hother : ∀ call ∈ calls, call.target ≠ draft.document.size := fun call hcall =>
          Nat.ne_of_lt (h.targets call hcall)
        have hnone := (bornOf_births_eq_nil_iff tag attributes).2 fun call hcall =>
          addsTo_eq_false_of_target_ne (hother call hcall)
        rw [leadingText_eq_empty hother, hnone, h.size, List.getElem?_concat_length]
        simp [Nat.ne_of_lt (h.size ▸ hparent)]
    · next hold =>
        have hget (born : Element)
            : (births tag attributes calls ++ [born])[id]? = (births tag attributes calls)[id]? := by
          rw [h.size] at hold
          rcases Nat.lt_or_gt_of_ne hold with hlt | hgt
          · exact List.getElem?_append_left hlt
          · rw [List.getElem?_eq_none (Nat.le_of_lt hgt),
              List.getElem?_eq_none (by rwa [List.length_append])]
        rw [Option.map_map, hget]
        refine congrArg (Option.map · _) (funext fun element => ?_)
        by_cases hid : parent = id <;> simp [hid]
  targets call hcall := by
    rw [perform, size_addChild hparent]
    rcases List.mem_append.1 hcall with hold | hnew
    · exact Nat.lt_succ_of_lt (h.targets call hold)
    · rw [List.mem_singleton.1 hnew]
      exact Nat.lt_succ_of_lt hparent

/-- A text changes the description of its element as long as this has no child. -/
theorem appendText (h : draft.Follows tag attributes calls) {id : ElementId}
    (hid : id < draft.document.size) (text : String)
    : (draft.perform (.appendText id text)).Follows tag attributes
        (calls ++ [.appendText id text]) where
  size := by
    rw [perform, size_appendText, h.size, births_concat]
    simp [Call.newborn?]
  handles := by
    rw [perform, size_appendText, h.handles]
  elements other := by
    rw [perform, element?_appendText, h.elements, described, described, births_concat]
    simp only [Call.newborn?, Option.toList_none, List.append_nil]
    split
    · next hother =>
        subst hother
        rw [Option.map_map, leadingText_concat, Call.textFor?, if_pos rfl]
        simp only [← bornOf_births_eq_nil_iff tag attributes]
        refine congrArg (Option.map · _) (funext fun element => ?_)
        cases hborn : bornOf id (births tag attributes calls) <;> simp [Element.appendText]
    · next hother =>
        have htext : (Call.appendText id text).textFor? other = none := if_neg hother
        rw [leadingText_concat_of_textFor?_eq_none htext]
  targets call hcall := by
    rw [perform, size_appendText]
    rcases List.mem_append.1 hcall with hold | hnew
    · exact h.targets call hold
    · rw [List.mem_singleton.1 hnew]
      exact hid

/-- Calls that are admitted are followed, by induction from the last call. -/
theorem run (h : (Draft.new tag attributes).Admits calls)
    : ((Draft.new tag attributes).run calls).Follows tag attributes calls := by
  induction calls using List.reverseRecOn with
  | nil => exact .new tag attributes
  | append_singleton calls call ih =>
      obtain ⟨hcalls, hcall, -⟩ := admits_append.1 h
      have hfollows := ih hcalls
      rw [run_concat]
      cases call with
      | addChild parent childTag childAttributes =>
          exact hfollows.addChild (hfollows.target_lt hcall) childTag childAttributes
      | appendText id text => exact hfollows.appendText (hfollows.target_lt hcall) text

end Draft.Follows

/-- A call leaves everything of the elements there were but the text and the children of its
target.
-/
theorem Draft.element?_perform {draft : Draft} {call : Call} {id : ElementId} {element : Element}
    (hcall : call.target < draft.document.size)
    (h : draft.document.element? id = some element)
    : ∃ next,
        (draft.perform call).document.element? id = some next
        ∧ next.tag = element.tag
        ∧ next.attributes = element.attributes
        ∧ next.parent = element.parent
        ∧ (id ≠ call.target → next = element) := by
  cases call with
  | addChild parent tag attributes =>
      have hold : id ≠ draft.document.size := Nat.ne_of_lt (Array.getElem?_eq_some_iff.1 h).1
      have hparent : parent < draft.document.size := hcall
      simp only [perform]
      rw [element?_addChild hparent, if_neg hold, h, Option.map_some]
      refine ⟨_, rfl, ?_⟩
      by_cases hid : parent = id <;> simp [hid, Call.target]
  | appendText other text =>
      simp only [perform]
      rw [element?_appendText, h, Option.map_some]
      by_cases hid : other = id
      · refine ⟨element.appendText text, if_pos hid, ?_⟩
        unfold Element.appendText
        split <;> simp [hid, Call.target]
      · exact ⟨_, if_neg hid, rfl, rfl, rfl, fun _ => rfl⟩

/-- What is known of a document that calls have built from its root. -/
structure BuiltBy (document : Document) (tag : String) (attributes : Attributes)
    (calls : List Call)
    : Prop where
  /-- The walk comes to its end, with one step for each element. -/
  ends : ∀ steps, document.advance^[steps] [root] = [] ↔ document.size ≤ steps
  /-- What the walk lists in a step is the first of its pending handles. -/
  walked : ∀ steps, (document.advance^[steps] [root]).head? = document.descendants[steps]?
  preorder : document.descendants = document.listing root
  /-- Each element is listed once. -/
  once : ∀ id, document.descendants.count id = if id < document.size then 1 else 0
  /-- Child lists and parent links are inverse to each other. -/
  linked
    : ∀ parent child, child ∈ document.children parent ↔ document.parent? child = some parent
  /-- The elements are those that the calls describe, with their texts. -/
  elements : ∀ id, document.element? id = described tag attributes calls id
  /-- Each of the calls left everything but the text and the children of its target. -/
  untouched
    : ∀ before call after,
        calls = before ++ call :: after
        → ∀ id element,
            ((Draft.new tag attributes).run before).document.element? id = some element
            → ∃ next,
                ((Draft.new tag attributes).run (before ++ [call])).document.element? id
                  = some next
                ∧ next.tag = element.tag
                ∧ next.attributes = element.attributes
                ∧ next.parent = element.parent
                ∧ (id ≠ call.target → next = element)

/-- Whatever calls are made with handles given out before, the document holds what they say, and
its walk is the preorder of its tree.
-/
theorem builtBy_run {tag : String} {attributes : Attributes} {calls : List Call}
    (h : (Draft.new tag attributes).Admits calls)
    : BuiltBy ((Draft.new tag attributes).run calls).document tag attributes calls where
  ends := iterate_advance_eq_nil_iff _
  walked := head?_iterate_advance _
  preorder := descendants_eq_listing _
  once id := by
    rw [descendants_eq_listing]
    split
    · next hid =>
        exact List.count_eq_one_of_mem (nodup_listing _ root) (mem_listing_root hid)
    · next hid => exact List.count_eq_zero_of_not_mem (mt mem_listing_root_iff.1 hid)
  linked _ _ := mem_children_iff
  elements := (Draft.Follows.run h).elements
  untouched before call after hsplit id element helement := by
    obtain ⟨hbefore, hcall, -⟩ := Draft.admits_append.1 (hsplit ▸ h)
    rw [Draft.run_concat]
    exact Draft.element?_perform ((Draft.Follows.run hbefore).target_lt hcall) helement

/-- A child added to the first of two children, behind both, and texts on either side of it. -/
theorem builtBy_run_of_late_child
    : (Draft.new "story" .empty).Admits
          [.appendText 0 "a", .addChild 0 "x" .empty, .addChild 0 "y" .empty,
            .appendText 1 "b", .appendText 0 "late", .addChild 1 "z" .empty, .appendText 1 "c"]
      ∧ BuiltBy
          ((Draft.new "story" .empty).run
            [.appendText 0 "a", .addChild 0 "x" .empty, .addChild 0 "y" .empty,
              .appendText 1 "b", .appendText 0 "late", .addChild 1 "z" .empty,
              .appendText 1 "c"]).document
          "story" .empty
          [.appendText 0 "a", .addChild 0 "x" .empty, .addChild 0 "y" .empty,
            .appendText 1 "b", .appendText 0 "late", .addChild 1 "z" .empty,
            .appendText 1 "c"] := by
  have hadmits : (Draft.new "story" .empty).Admits
      [.appendText 0 "a", .addChild 0 "x" .empty, .addChild 0 "y" .empty,
        .appendText 1 "b", .appendText 0 "late", .addChild 1 "z" .empty,
        .appendText 1 "c"] := by
    decide +kernel
  exact ⟨hadmits, builtBy_run hadmits⟩

end StoryAtlas.Document
