import StoryAtlas.Proofs.Inference.DetectorLists
import StoryAtlas.Text.Search

/-! Relations told by their texts.
The text of a relation with a plain attribute name can be read back.  So with plain target
attributes two edges are alike only if they are equal: inference keeps no edge twice and drops
nothing that it has not kept.
-/

namespace StoryAtlas

open StoryAtlas.Text

-----------------------------------------------------------------------------------------
-- Reading a text back
-----------------------------------------------------------------------------------------

/-- An attribute name that is not taken for a part of another relation's text. -/
structure IsPlainName (name : String) : Prop where
  no_at : '@' ∉ name.toList
  no_colon : ':' ∉ name.toList
  ne_inline : name ≠ "inline"

namespace Relation

/-- The attribute name in a relation. -/
def attributeName? : Relation → Option String
  | ownAttribute name => some name
  | childAttribute _ name => some name
  | _ => none

/-- The relation of a child, from what follows `child::` in its text: the tag and the name of a
target attribute stand around the last at sign.
-/
def ofChildText (chars : List Char) : Relation :=
  if chars = "default::next".toList then childDefaultNext
  else
    match dropPiece? "::default::next".toList.reverse chars.reverse with
    | some tag => childTagDefaultNext (String.ofList tag.reverse)
    | none =>
        let name := chars.reverse.takeWhile (· != '@')
        childAttribute (String.ofList (chars.reverse.drop (name.length + 1)).reverse)
          (String.ofList name.reverse)

/-- The relation with a text. -/
def ofText (text : String) : Relation :=
  match dropPiece? "child::".toList text.toList with
  | some chars => ofChildText chars
  | none =>
      if text = "inline" then inlineMarker
      else if text = "default::next" then defaultNext
      else ownAttribute text

theorem ofText_child (chars : List Char)
    : ofText (String.ofList ("child::".toList ++ chars)) = ofChildText chars := by
  have hdrop : dropPiece? "child::".toList (String.ofList ("child::".toList ++ chars)).toList
      = some chars :=
    dropPiece?_eq_some_iff.2 String.toList_ofList
  rw [ofText, hdrop]

theorem ofText_ownAttribute {name : String} (h : IsPlainName name)
    : ofText name = ownAttribute name := by
  have hnone : dropPiece? "child::".toList name.toList = none := by
    refine Option.eq_none_iff_forall_ne_some.2 fun rest hrest => h.no_colon ?_
    rw [dropPiece?_eq_some_iff.1 hrest]
    simp
  have hnext : name ≠ "default::next" := by
    rintro rfl
    exact h.no_colon (by decide)
  rw [ofText, hnone]
  simp only [h.ne_inline, hnext, if_false]

theorem ofChildText_childTagDefaultNext (tag : List Char)
    : ofChildText (tag ++ "::default::next".toList) = childTagDefaultNext (String.ofList tag) := by
  have hlonger : tag ++ "::default::next".toList ≠ "default::next".toList := by
    intro heq
    have hlength := congrArg List.length heq
    simp only [List.length_append] at hlength
    have hsuffix : "::default::next".toList.length = 15 := rfl
    have hwhole : "default::next".toList.length = 13 := rfl
    omega
  have hdrop : dropPiece? "::default::next".toList.reverse (tag ++ "::default::next".toList).reverse
      = some tag.reverse := by
    rw [List.reverse_append]
    exact dropPiece?_eq_some_iff.2 rfl
  rw [ofChildText, if_neg hlonger, hdrop]
  simp

/-- Behind the last at sign there is no colon, so the text does not end like that of a default. -/
theorem ofChildText_childAttribute (tag : List Char) {name : List Char} (hat : '@' ∉ name)
    (hcolon : ':' ∉ name)
    : ofChildText (tag ++ '@' :: name)
      = childAttribute (String.ofList tag) (String.ofList name) := by
  have hname : ∀ c ∈ name.reverse, (c != '@') = true := by
    intro c hc
    simpa using fun heq : c = '@' => hat (heq ▸ List.mem_reverse.1 hc)
  have hreverse : (tag ++ '@' :: name).reverse = name.reverse ++ '@' :: tag.reverse := by simp
  have hother : tag ++ '@' :: name ≠ "default::next".toList := by
    intro heq
    have hmem : '@' ∈ "default::next".toList := by
      rw [← heq]
      simp
    exact absurd hmem (by decide)
  have hnone : dropPiece? "::default::next".toList.reverse (tag ++ '@' :: name).reverse = none := by
    refine Option.eq_none_iff_forall_ne_some.2 fun rest hrest => ?_
    have hends := dropPiece?_eq_some_iff.1 hrest
    rw [hreverse] at hends
    -- The first of the two signs in the reversed text is an at sign, and a colon as well.
    have hsign := congrArg (List.find? fun c => c == '@' || c == ':') hends
    have hfind : name.reverse.find? (fun c => c == '@' || c == ':') = none := by
      refine List.find?_eq_none.2 fun c hc => ?_
      have hmem := List.mem_reverse.1 hc
      simpa using
        ⟨fun heq : c = '@' => hat (heq ▸ hmem), fun heq : c = ':' => hcolon (heq ▸ hmem)⟩
    have hsuffix : "::default::next".toList.reverse.find? (fun c => c == '@' || c == ':')
        = some ':' := rfl
    rw [List.find?_append, List.find?_append, hfind, hsuffix] at hsign
    simp at hsign
  have htake : (name.reverse ++ '@' :: tag.reverse).takeWhile (· != '@') = name.reverse := by
    rw [List.takeWhile_append_of_pos hname]
    simp
  have hdrop : (name.reverse ++ '@' :: tag.reverse).drop (name.reverse.length + 1)
      = tag.reverse := by
    rw [← List.drop_drop, List.drop_left]
    rfl
  rw [ofChildText, if_neg hother, hnone]
  simp only [hreverse, htake, hdrop, List.reverse_reverse]

/-- The text of a relation is read as that relation, by cases on the relation. -/
theorem ofText_text {relation : Relation}
    (plain : ∀ name ∈ relation.attributeName?, IsPlainName name)
    : ofText relation.text = relation := by
  cases relation with
  | ownAttribute name => exact ofText_ownAttribute (plain name rfl)
  | inlineMarker => decide
  | childAttribute tag name =>
      have hname := plain name rfl
      have htext : (childAttribute tag name).text
          = String.ofList ("child::".toList ++ (tag.toList ++ '@' :: name.toList)) := by
        apply String.toList_inj.1
        simp [text]
      rw [htext, ofText_child, ofChildText_childAttribute _ hname.no_at hname.no_colon]
      simp
  | childDefaultNext => decide
  | childTagDefaultNext tag =>
      have htext : (childTagDefaultNext tag).text
          = String.ofList ("child::".toList ++ (tag.toList ++ "::default::next".toList)) := by
        apply String.toList_inj.1
        simp [text]
      rw [htext, ofText_child, ofChildText_childTagDefaultNext]
      simp
  | defaultNext => decide

/-- Relations with plain names are told apart by their texts. -/
theorem eq_of_text_eq {left right : Relation}
    (hleft : ∀ name ∈ left.attributeName?, IsPlainName name)
    (hright : ∀ name ∈ right.attributeName?, IsPlainName name) (h : left.text = right.text)
    : left = right := by
  rw [← ofText_text hleft, h, ofText_text hright]

end Relation

namespace Inference

-----------------------------------------------------------------------------------------
-- Names in inferred edges
-----------------------------------------------------------------------------------------

theorem attributeName_mem_of_mem_elementTargets {element : Element} {names : List String}
    {found : NamedTarget} (h : found ∈ elementTargets element names)
    : found.attributeName ∈ names := by
  obtain ⟨⟨name, value⟩, hvalue, hfound⟩ := List.mem_flatMap.1 h
  obtain ⟨target, -, rfl⟩ := List.mem_map.1 hfound
  obtain ⟨other, hother, hentry⟩ := List.mem_filterMap.1 hvalue
  split at hentry
  · split at hentry
    · cases hentry
    · obtain ⟨rfl, -⟩ := Prod.mk.inj (Option.some.inj hentry)
      exact hother
  · cases hentry

section Infer

variable {conventions : Conventions} {pattern : Pattern} {document : Document} {nodes : Registry}

/-- The attribute named in a find is a target attribute, by cases on the find. -/
theorem Finds.mem_targetAttributes {context : Context} {node : Node} {edge : Edge}
    (h : Finds conventions pattern context node edge)
    : ∀ name ∈ edge.relation.attributeName?, name ∈ conventions.targetAttributes := by
  intro name hname
  cases h with
  | ownAttribute located named =>
      obtain rfl := Option.some.inj hname
      exact attributeName_mem_of_mem_elementTargets named
  | inlineMarker located marked => cases hname
  | childAttribute option named =>
      obtain rfl := Option.some.inj hname
      exact attributeName_mem_of_mem_elementTargets named
  | childNext option unnamed successor =>
      dsimp only at hname
      split at hname <;> cases hname

/-- The attribute named in an inferred edge is a target attribute. -/
theorem mem_targetAttributes_of_mem_infer {edge : Edge}
    (h : edge ∈ infer (conventions.detectorsWith pattern) ⟨document, nodes⟩)
    : ∀ name ∈ edge.relation.attributeName?, name ∈ conventions.targetAttributes := by
  obtain ⟨node, -, hedge⟩ := mem_infer_iff.1 h
  rcases mem_nodeEdges_cases hedge with hfound | ⟨-, next, -, rfl⟩
  · rw [candidates_detectorsWith] at hfound
    exact (mem_standardCandidates_iff.1 hfound).mem_targetAttributes
  · intro name hname
    cases hname

/-- An edge like a candidate is kept. -/
theorem exists_mem_infer_of_mem_detect {detectors : List Detector} {detector : Detector}
    {node : Node} {edge : Edge} (hnode : node ∈ nodes.nodes) (hdetector : detector ∈ detectors)
    (h : edge ∈ detector.detect ⟨document, nodes⟩ node)
    : ∃ kept ∈ infer detectors ⟨document, nodes⟩, edgeKey kept = edgeKey edge := by
  have hfound : edge ∈ candidates detectors ⟨document, nodes⟩ node :=
    List.mem_flatMap.2 ⟨detector, hdetector, h⟩
  have hkey
      : edgeKey edge
        ∈ (nodeEdges (candidates detectors ⟨document, nodes⟩ node) node
            (nodes.nextAfter? node)).map edgeKey :=
    mem_map_edgeKey_nodeEdges_iff.2 (Or.inl (List.mem_map_of_mem hfound))
  obtain ⟨kept, hkept, heq⟩ := List.mem_map.1 hkey
  exact ⟨kept, mem_infer_iff.2 ⟨node, hnode, hkept⟩, heq⟩

end Infer

/-- Relations with plain attribute names have different texts.  So with plain target attributes,
as the standard ones are, no edge of a story is there twice, every candidate of every detector is
there, and no candidate is dropped for an edge that differs from it.
-/
theorem eq_of_text_eq_and_mem_infer
    : (∀ left right : Relation,
        (∀ name ∈ left.attributeName?, IsPlainName name)
        → (∀ name ∈ right.attributeName?, IsPlainName name)
        → left.text = right.text
        → left = right)
      ∧ (∀ conventions : Conventions,
          (∀ name ∈ conventions.targetAttributes, IsPlainName name)
          → ∀ (pattern : Pattern) (document : Document) (nodes : Registry),
              (infer (conventions.detectorsWith pattern) ⟨document, nodes⟩).Nodup
              ∧ ∀ node ∈ nodes.nodes,
                  ∀ detector ∈ conventions.detectorsWith pattern,
                    ∀ edge ∈ detector.detect ⟨document, nodes⟩ node,
                      edge ∈ infer (conventions.detectorsWith pattern) ⟨document, nodes⟩
                      ∧ ∀ kept ∈ infer (conventions.detectorsWith pattern) ⟨document, nodes⟩,
                          sameEdge edge kept = true → kept = edge)
      ∧ ∀ name ∈ ({} : Conventions).targetAttributes, IsPlainName name := by
  refine ⟨fun left right => Relation.eq_of_text_eq, ?_, ?_⟩
  · intro conventions plain pattern document nodes
    refine ⟨nodup_map_edgeKey_infer.of_map, ?_⟩
    intro node hnode detector hdetector edge hedge
    have hfound : edge ∈ candidates (conventions.detectorsWith pattern) ⟨document, nodes⟩ node :=
      List.mem_flatMap.2 ⟨detector, hdetector, hedge⟩
    rw [candidates_detectorsWith] at hfound
    have hnames := (mem_standardCandidates_iff.1 hfound).mem_targetAttributes
    have hsame
        : ∀ kept ∈ infer (conventions.detectorsWith pattern) ⟨document, nodes⟩,
            edgeKey kept = edgeKey edge → kept = edge := by
      intro kept hkept hkey
      have htext : kept.relation.text = edge.relation.text :=
        congrArg (fun key => key.2.2) hkey
      have hrelation := Relation.eq_of_text_eq
        (fun name hname => plain name (mem_targetAttributes_of_mem_infer hkept name hname))
        (fun name hname => plain name (hnames name hname)) htext
      have hsource : kept.source = edge.source := congrArg Prod.fst hkey
      have htarget : kept.target = edge.target := congrArg (fun key => key.2.1) hkey
      cases kept
      cases edge
      simp_all
    obtain ⟨kept, hkept, hkey⟩ := exists_mem_infer_of_mem_detect hnode hdetector hedge
    refine ⟨hsame kept hkept hkey ▸ hkept, fun other hother heq => ?_⟩
    exact hsame other hother (sameEdge_iff.1 heq).symm
  · intro name hname
    have hplain
        : ∀ name ∈ ({} : Conventions).targetAttributes,
            '@' ∉ name.toList ∧ ':' ∉ name.toList ∧ name ≠ "inline" := by
      decide
    obtain ⟨hat, hcolon, hinline⟩ := hplain name hname
    exact ⟨hat, hcolon, hinline⟩

/-- The target of a scene with a marker and an option beside it is kept. -/
theorem eq_of_text_eq_and_mem_infer_of_two_scenes
    : (∀ name ∈ Conventions.arrowMarkers.targetAttributes, IsPlainName name)
      ∧ ∃ pattern,
          Conventions.arrowMarkers.pattern = .ok pattern
          ∧ (infer (Conventions.arrowMarkers.detectorsWith pattern) .twoScenes).Nodup
          ∧ ⟨⟨"start"⟩, ⟨"end"⟩, .ownAttribute "goto"⟩
            ∈ infer (Conventions.arrowMarkers.detectorsWith pattern) .twoScenes := by
  obtain ⟨pattern, usable⟩ := Conventions.pattern_arrowMarkers
  obtain ⟨-, hinfer, hplain⟩ := eq_of_text_eq_and_mem_infer
  have hnode : ⟨⟨"start"⟩, "", "scene", 0, 0⟩ ∈ Context.twoScenes.nodes.nodes := by decide
  have hfound
      : ⟨⟨"start"⟩, ⟨"end"⟩, .ownAttribute "goto"⟩
        ∈ Conventions.arrowMarkers.targetDetector.detect .twoScenes
            ⟨⟨"start"⟩, "", "scene", 0, 0⟩ := by
    decide
  obtain ⟨hnodup, hkept⟩ :=
    hinfer Conventions.arrowMarkers hplain pattern Context.twoScenes.document
      Context.twoScenes.nodes
  exact ⟨hplain, pattern, usable, hnodup,
    (hkept _ hnode _ List.mem_cons_self _ hfound).1⟩

end Inference

end StoryAtlas
