import Mathlib.Data.List.Forall2
import Mathlib.Data.Option.Basic
import StoryAtlas.Proofs.Document.Growth

/-! Documents of one shape whose texts are related.
Such documents have the same elements in the same places, with the same tags and names of
attributes.  They stay so when the same children and related texts are added to both.
-/

namespace StoryAtlas

-- Texts and values are related by `rel`.
variable {rel : List Char → List Char → Prop}

-----------------------------------------------------------------------------------------
-- Attributes
-----------------------------------------------------------------------------------------

/-- Two attributes with the same name and related values. -/
def SameName (rel : List Char → List Char → Prop) (entry other : String × String) : Prop :=
  other.1 = entry.1 ∧ rel entry.2.toList other.2.toList

theorem map_fst_of_sameName {entries others : List (String × String)}
    (h : List.Forall₂ (SameName rel) entries others)
    : others.map Prod.fst = entries.map Prod.fst := by
  induction h with
  | nil => rfl
  | cons hentry _ ih => rw [List.map_cons, List.map_cons, hentry.1, ih]

theorem eq_of_sameName {entries others : List (String × String)}
    (h : List.Forall₂ (SameName Eq) entries others)
    : others = entries := by
  induction h with
  | nil => rfl
  | cons hentry _ ih =>
      rw [ih, Prod.ext hentry.1 (String.toList_inj.mp hentry.2.symm)]

namespace Attributes

/-- Attributes with the same names in the same order and related values. -/
def SameUpTo (rel : List Char → List Char → Prop) (attributes other : Attributes) : Prop :=
  List.Forall₂ (SameName rel) attributes.entries other.entries

theorem SameUpTo.insert {attributes other : Attributes} (h : attributes.SameUpTo rel other)
    (name : String) {value otherValue : String} (hvalue : rel value.toList otherValue.toList)
    : (attributes.insert name value).SameUpTo rel (other.insert name otherValue) := by
  have hnew : SameName rel (name, value) (name, otherValue) := ⟨rfl, hvalue⟩
  have hnames := map_fst_of_sameName h
  unfold Attributes.insert
  by_cases hmem : name ∈ attributes.entries.map Prod.fst
  · rw [dif_pos hmem, dif_pos (hnames ▸ hmem)]
    refine List.rel_map ?_ h
    intro entry otherEntry hentry
    change SameName rel (if entry.1 = name then (name, value) else entry)
      (if otherEntry.1 = name then (name, otherValue) else otherEntry)
    rw [hentry.1]
    split
    · exact hnew
    · exact hentry
  · rw [dif_neg hmem, dif_neg (hnames ▸ hmem)]
    exact List.rel_append h (.cons hnew .nil)

/-- Attributes written alike, by induction on what is written. -/
theorem sameUpTo_ofList {entries others : List (String × String)}
    (h : List.Forall₂ (SameName rel) entries others)
    : (ofList entries).SameUpTo rel (ofList others) := by
  have hfold {attributes other : Attributes} (hold : attributes.SameUpTo rel other)
      : (entries.foldl (fun attributes entry => attributes.insert entry.1 entry.2)
            attributes).SameUpTo rel
          (others.foldl (fun attributes entry => attributes.insert entry.1 entry.2) other) := by
    induction h generalizing attributes other with
    | nil => exact hold
    | cons hentry _ ih =>
        rw [List.foldl_cons, List.foldl_cons, hentry.1]
        exact ih (hold.insert _ hentry.2)
  exact hfold .nil

end Attributes

-----------------------------------------------------------------------------------------
-- Elements
-----------------------------------------------------------------------------------------

/-- Elements in the same place with the same tag and names, whose text and values are related.
-/
structure Element.SameUpTo (rel : List Char → List Char → Prop) (element other : Element)
    : Prop where
  tag : other.tag = element.tag
  attributes : element.attributes.SameUpTo rel other.attributes
  text : rel element.text.toList other.text.toList
  children : other.children = element.children
  parent : other.parent = element.parent

namespace Element.SameUpTo

variable {element other : Element}

theorem eq (h : element.SameUpTo Eq other) : other = element := by
  have hattributes := eq_of_sameName h.attributes
  have htext := h.text
  obtain ⟨tag, ⟨entries, _⟩, text, children, parent⟩ := element
  obtain ⟨otherTag, ⟨otherEntries, _⟩, otherText, otherChildren, otherParent⟩ := other
  obtain rfl : otherTag = tag := h.tag
  obtain rfl : otherChildren = children := h.children
  obtain rfl : otherParent = parent := h.parent
  obtain rfl : otherEntries = entries := hattributes
  obtain rfl : otherText = text := String.toList_inj.mp htext.symm
  rfl

theorem appendText
    (happend
      : ∀ {chars other back otherBack},
          rel chars other → rel back otherBack → rel (chars ++ back) (other ++ otherBack))
    (h : element.SameUpTo rel other) {text otherText : String}
    (htext : rel text.toList otherText.toList)
    : (element.appendText text).SameUpTo rel (other.appendText otherText) := by
  unfold Element.appendText
  by_cases hfirst : element.children.isEmpty
  · rw [if_pos hfirst, if_pos (h.children ▸ hfirst)]
    refine { h with text := ?_ }
    rw [String.toList_append, String.toList_append]
    exact happend h.text htext
  · rw [if_neg hfirst, if_neg (h.children ▸ hfirst)]
    exact h

theorem addChild (h : element.SameUpTo rel other) (child : ElementId)
    : { element with children := element.children ++ [child] }.SameUpTo rel
        { other with children := other.children ++ [child] } :=
  { h with children := congrArg (· ++ [child]) h.children }

end Element.SameUpTo

-----------------------------------------------------------------------------------------
-- Documents
-----------------------------------------------------------------------------------------

/-- Documents that are the same element by element, up to texts and values. -/
structure Document.SameUpTo (rel : List Char → List Char → Prop) (document other : Document)
    : Prop where
  size : other.size = document.size
  elements : ∀ id, Option.Rel (Element.SameUpTo rel) (document.element? id) (other.element? id)

namespace Document

theorem sameUpTo_new (hempty : rel [] []) (tag : String) {attributes other : Attributes}
    (h : attributes.SameUpTo rel other)
    : (new tag attributes).SameUpTo rel (new tag other) where
  size := rfl
  elements id := by
    cases id with
    | zero => exact .some ⟨rfl, h, hempty, rfl, rfl⟩
    | succ id => exact .none

namespace SameUpTo

variable {document other : Document}

theorem eq (h : document.SameUpTo Eq other) : other = document := by
  refine eq_of_element? fun id => ?_
  have helement := h.elements id
  generalize document.element? id = element? at helement ⊢
  generalize other.element? id = otherElement? at helement ⊢
  cases helement with
  | none => rfl
  | some h => rw [h.eq]

theorem appendText
    (happend
      : ∀ {chars other back otherBack},
          rel chars other → rel back otherBack → rel (chars ++ back) (other ++ otherBack))
    (h : document.SameUpTo rel other) (id : ElementId) {text otherText : String}
    (htext : rel text.toList otherText.toList)
    : (document.appendText id text).SameUpTo rel (other.appendText id otherText) where
  size := by rw [size_appendText, size_appendText, h.size]
  elements place := by
    have helement := h.elements place
    rw [element?_appendText, element?_appendText]
    generalize document.element? place = element? at helement ⊢
    generalize other.element? place = otherElement? at helement ⊢
    split
    · cases helement with
      | none => exact .none
      | some h => exact .some (h.appendText happend htext)
    · exact helement

/-- The same child gets the same handle in both documents. -/
theorem addChild (hempty : rel [] []) (h : document.SameUpTo rel other) (parent : ElementId)
    (tag : String) {attributes otherAttributes : Attributes}
    (hattributes : attributes.SameUpTo rel otherAttributes)
    : (document.addChild parent tag attributes).1.SameUpTo rel
          (other.addChild parent tag otherAttributes).1
        ∧ (other.addChild parent tag otherAttributes).2
          = (document.addChild parent tag attributes).2 := by
  refine ⟨?_, by rw [handle_addChild, handle_addChild, h.size]⟩
  by_cases hparent : parent < document.size
  · have hother : parent < other.size := h.size ▸ hparent
    constructor
    · rw [size_addChild hparent, size_addChild hother, h.size]
    · intro id
      have helement := h.elements id
      rw [element?_addChild hparent, element?_addChild hother, h.size]
      generalize document.element? id = element? at helement ⊢
      generalize other.element? id = otherElement? at helement ⊢
      by_cases hnew : id = document.size
      · rw [if_pos hnew, if_pos hnew]
        exact .some ⟨rfl, hattributes, hempty, rfl, rfl⟩
      · rw [if_neg hnew, if_neg hnew]
        cases helement with
        | none => exact .none
        | some h =>
            refine .some ?_
            split
            · exact h.addChild document.size
            · exact h
  · rw [Document.addChild, Document.addChild, dif_neg hparent, dif_neg (h.size ▸ hparent)]
    exact h

end SameUpTo

end Document

end StoryAtlas
