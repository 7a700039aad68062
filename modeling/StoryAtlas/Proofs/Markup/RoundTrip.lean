import StoryAtlas.Proofs.Markup.Tags

/-! Written documents read back.
Reading the content of an element extends the document below this element and leaves the other
open elements alone.  So the text of a manuscript is read into a document that holds its tree.
-/

namespace StoryAtlas.Markup

open StoryAtlas.Text

namespace Manuscript

-----------------------------------------------------------------------------------------
-- Content in a document
-----------------------------------------------------------------------------------------

/-- The document with content put into an element of it. -/
def Content.extend : Content → Document → ElementId → Document
  | done, document, _ => document
  | character one rest, document, id =>
      rest.extend (document.appendText id (String.ofList [one.char])) id
  | verbatim piece rest, document, id =>
      rest.extend (document.appendText id (String.ofList piece.chars)) id
  | aside _ rest, document, id => rest.extend document id
  | empty head rest, document, id =>
      rest.extend (document.addChild id head.tag.text head.given).1 id
  | element head inside rest, document, id =>
      let grown := (document.addChild id head.tag.text head.given).1
      rest.extend (inside.extend grown document.size) id

/-- Text in front of other content. -/
theorem grows_appendText {document new : Document} {id : ElementId} {first second : List Char}
    {forest : List Tree} (hid : id < document.size)
    (h : (document.appendText id (String.ofList first)).Grows new id (String.ofList second) forest)
    : document.Grows new id (String.ofList (first ++ second)) forest := by
  rw [String.ofList_append]
  exact (Document.Grows.appendText document id (String.ofList first)).trans hid h

/-- An element in front of other content. -/
theorem grows_addChild {document middle new : Document} {id : ElementId} {head : Head}
    {text more : List Char} {forest others : List Tree} (hid : id < document.size)
    (hchild
      : (document.addChild id head.tag.text head.given).1.Grows middle document.size
          (String.ofList text) forest)
    (h : middle.Grows new id (String.ofList more) others)
    : document.Grows new id (String.ofList []) (head.tree text forest :: others) := by
  have htree := Document.Grows.addChild hid hchild
  rw [head.entries_given] at htree
  exact htree.trans hid h

/-- Content adds its text and its trees to the element it is put into, by induction on the
content.
-/
theorem Content.grows_extend (content : Content) (document : Document) (id : ElementId)
    (hid : id < document.size)
    : document.Grows (content.extend document id) id (String.ofList content.leadingText)
        content.forest := by
  induction content generalizing document id with
  | done => exact Document.Grows.refl document id
  | character one rest ih =>
      exact grows_appendText hid (ih _ id (hid.trans_eq (Document.size_appendText ..).symm))
  | verbatim piece rest ih =>
      exact grows_appendText hid (ih _ id (hid.trans_eq (Document.size_appendText ..).symm))
  | aside note rest ih => exact ih document id hid
  | empty head rest ih =>
      have hsize := @Document.size_addChild document id head.tag.text head.given hid
      have hgrown := (Nat.lt_succ_of_lt hid).trans_eq hsize.symm
      exact grows_addChild hid (.refl _ _) (ih _ id hgrown)
  | element head inside rest ihInside ihRest =>
      have hsize := @Document.size_addChild document id head.tag.text head.given hid
      have hgrown := (Nat.lt_succ_of_lt hid).trans_eq hsize.symm
      have hchild := ihInside (document.addChild id head.tag.text head.given).1 document.size
        ((Nat.lt_succ_self document.size).trans_eq hsize.symm)
      have hnext := ihRest _ id (Nat.lt_of_lt_of_le hgrown hchild.size_le)
      exact grows_addChild hid hchild hnext

end Manuscript

-----------------------------------------------------------------------------------------
-- A reader in an element
-----------------------------------------------------------------------------------------

namespace Reader

/-- A reader that has met no problem and no declaration, with a document and open elements. -/
def within (document : Document) (rootSpan : Span) (opened : List OpenElement) : Reader :=
  { root := some ⟨document, rootSpan⟩, opened }

/-- Characters that are one token are read by one step. -/
theorem readFrom_token (token : Token) {reader next : Reader} {c : Char}
    {chars rest : List Char} {position : Nat}
    (hread : readToken c (chars ++ rest) = .ok (token, rest))
    (hstep
      : reader.step ⟨token, .between position (position + byteLength (c :: chars))⟩ = .ok next)
    : reader.readFrom position (c :: chars ++ rest)
      = next.readFrom (position + byteLength (c :: chars)) rest := by
  have hwritten : c :: chars = token.written :=
    List.append_cancel_right (readToken_split hread)
  rw [hwritten] at hstep ⊢
  rw [← hwritten, List.cons_append, readFrom_cons hread, hstep, hwritten]
  rfl

variable {document : Document} {rootSpan : Span} {element : OpenElement}
  {others : List OpenElement}

theorem step_text (first : Char) (run : List Char) (span : Span)
    : (within document rootSpan (element :: others)).step ⟨.text first run, span⟩
      = .ok
          (within
            (document.appendText element.id
              (String.ofList (normalizeLineBreaks (first :: run))))
            rootSpan (element :: others)) :=
  rfl

theorem step_reference (meant : Manuscript.Reference) (span : Span)
    : (within document rootSpan (element :: others)).step ⟨.reference meant.name, span⟩
      = .ok
          (within (document.appendText element.id (String.ofList [meant.char])) rootSpan
            (element :: others)) := by
  simp only [step, within, Manuscript.resolveReference?_name]
  rfl

theorem step_cdata {chars : List Char} (hreturn : '\r' ∉ chars) (span : Span)
    : (within document rootSpan (element :: others)).step ⟨.cdata chars, span⟩
      = .ok
          (within (document.appendText element.id (String.ofList chars)) rootSpan
            (element :: others)) := by
  simp only [step, normalizeLineBreaks_of_not_mem hreturn]
  rfl

/-- A character of text can be read on its own, as the rest of its token is then read as another
token with the same effect.
-/
theorem readFrom_textChar {c : Char} (htext : isTextChar c = true) (hreturn : c ≠ '\r')
    (position : Nat) (rest : List Char)
    : (within document rootSpan (element :: others)).readFrom position (c :: rest)
      = (within (document.appendText element.id (String.ofList [c])) rootSpan
            (element :: others)).readFrom
          (position + c.utf8Size) rest := by
  have hsingle := readFrom_cons (readToken_textChar htext rest)
    (within document rootSpan (element :: others)) position
  cases rest with
  | nil =>
      rw [hsingle, step_text, normalizeLineBreaks_cons hreturn]
      rfl
  | cons d tail =>
      cases hd : isTextChar d with
      | false =>
          rw [hsingle, step_text, List.takeWhile_cons_of_neg (by simp [hd]),
            List.dropWhile_cons_of_neg (by simp [hd]), normalizeLineBreaks_cons hreturn]
          rfl
      | true =>
          have hnext := readFrom_cons (readToken_textChar hd tail)
            (within (document.appendText element.id (String.ofList [c])) rootSpan
              (element :: others))
            (position + c.utf8Size)
          rw [hsingle, hnext, step_text, step_text, List.takeWhile_cons_of_pos hd,
            List.dropWhile_cons_of_pos hd, normalizeLineBreaks_cons hreturn,
            Document.appendText_appendText, ← String.ofList_append]
          simp only [Token.written, byteLength_cons, Nat.add_assoc]
          rfl

/-- The element of a tag is put into the innermost open element. -/
theorem addElement_within (head : Manuscript.Head) (span : Span)
    : (within document rootSpan (element :: others)).addElement head.written span
      = .ok
          (within (document.addChild element.id head.tag.text head.given).1 rootSpan
              (element :: others),
            ⟨document.size, head.tag.text, span⟩) := by
  simp only [addElement, within, head.tagName_written, head.attributesOf_written,
    Manuscript.readTag_written, List.append_nil]
  exact congrArg (fun id => Except.ok (_, OpenElement.mk id head.tag.text span))
    Document.handle_addChild

/-- The element of the first tag is the root. -/
theorem addElement_root (head : Manuscript.Head) (span : Span)
    : ({} : Reader).addElement head.written span
      = .ok
          (within (.new head.tag.text head.given) span [],
            ⟨Document.root, head.tag.text, span⟩) := by
  simp only [addElement, head.tagName_written, head.attributesOf_written,
    Manuscript.readTag_written, List.append_nil]
  rfl

/-- The end tag of an element leaves it. -/
theorem step_endTag (head : Manuscript.Head) (span : Span)
    (htag : element.tag = head.tag.text)
    : (within document rootSpan (element :: others)).step ⟨.endTag head.tag.chars, span⟩
      = .ok (within document rootSpan others) := by
  have hclose := head.tag.isName.closeElement_eq (within document rootSpan (element :: others))
    span
  simp only [within, htag, Manuscript.Name.text, if_pos] at hclose
  exact hclose

end Reader

namespace Manuscript

open Reader

section Within

variable {document : Document} {rootSpan : Span} {element : OpenElement}
  {others : List OpenElement}

/-- A written character is read as text of the innermost open element. -/
theorem readFrom_character (one : Character isPlainInText) (position : Nat) (rest : List Char)
    : (within document rootSpan (element :: others)).readFrom position (one.written ++ rest)
      = (within (document.appendText element.id (String.ofList [one.char])) rootSpan
            (element :: others)).readFrom
          (position + byteLength one.written) rest := by
  cases one with
  | literal c allowed =>
      have hplain : c ≠ '&' ∧ c ≠ '<' ∧ c ≠ '\r' := by simpa [isPlainInText] using allowed
      have htext : isTextChar c = true := by simp [isTextChar, hplain]
      exact readFrom_textChar htext hplain.2.2 position rest
  | reference meant =>
      refine readFrom_token _ ?_ (step_reference meant _)
      simpa using readToken_reference meant.isName rest

/-- A verbatim section is read as text of the innermost open element. -/
theorem readFrom_verbatim (piece : Verbatim) (position : Nat) (rest : List Char)
    : (within document rootSpan (element :: others)).readFrom position (piece.written ++ rest)
      = (within (document.appendText element.id (String.ofList piece.chars)) rootSpan
            (element :: others)).readFrom
          (position + byteLength piece.written) rest := by
  refine readFrom_token _ ?_ (step_cdata piece.returnless _)
  simpa using readToken_cdata piece.unended rest

/-- An empty tag is read as a child of the innermost open element. -/
theorem readFrom_emptyTag (head : Head) (position : Nat) (rest : List Char)
    : (within document rootSpan (element :: others)).readFrom position (head.emptyTag ++ rest)
      = (within (document.addChild element.id head.tag.text head.given).1 rootSpan
            (element :: others)).readFrom
          (position + byteLength head.emptyTag) rest := by
  refine readFrom_token (.emptyTag head.written) ?_ ?_
  · simpa using head.readToken_emptyTag rest
  · simp only [step, addElement_within]
    rfl

/-- A start tag is read as a child of the innermost open element, and opens this child. -/
theorem readFrom_startTag (head : Head) (position : Nat) (rest : List Char)
    : (within document rootSpan (element :: others)).readFrom position (head.startTag ++ rest)
      = (within (document.addChild element.id head.tag.text head.given).1 rootSpan
            (⟨document.size, head.tag.text,
                .between position (position + byteLength head.startTag)⟩
              :: element :: others)).readFrom
          (position + byteLength head.startTag) rest := by
  refine readFrom_token (.startTag head.written) ?_ ?_
  · simpa using head.readToken_startTag rest
  · simp only [step, addElement_within]
    rfl

/-- An end tag leaves the innermost open element. -/
theorem readFrom_endTag (head : Head) (htag : element.tag = head.tag.text) (position : Nat)
    (rest : List Char)
    : (within document rootSpan (element :: others)).readFrom position (head.endTag ++ rest)
      = (within document rootSpan others).readFrom (position + byteLength head.endTag)
          rest := by
  refine readFrom_token _ ?_ (step_endTag head _ htag)
  simpa using head.readToken_endTag rest

/-- An instruction with a name ends where its body does. -/
theorem readToken_named {name body : List Char} (hne : name ≠ [])
    (hletters : ∀ c ∈ name, c.isAlpha = true) (hbody : ¬ ['?', '>'] <:+: body)
    (rest : List Char)
    : readToken '<' ('?' :: ((name ++ ' ' :: body) ++ '?' :: '>' :: rest))
      = .ok (.instruction (name ++ ' ' :: body), rest) := by
  have hmark : '?' ∉ name ++ [' '] := by
    intro hmem
    rcases List.mem_append.1 hmem with hname | hblank
    · exact absurd (hletters '?' hname) (by decide)
    · exact absurd hblank (by decide)
  have hend : ¬ ['?', '>'] <:+: name ++ ' ' :: body := by
    intro hinner
    rw [List.append_cons] at hinner
    exact hbody (isInfix_of_append hmark hinner)
  have hbegin : (name ++ ' ' :: body).head? ≠ some '>' := by
    obtain ⟨first, others, rfl⟩ := List.exists_cons_of_ne_nil hne
    intro hhead
    have hfirst := hletters first List.mem_cons_self
    rw [Option.some.inj hhead] at hfirst
    exact absurd hfirst (by decide)
  exact readToken_instruction hbegin (by simp) hend rest

/-- Comments and instructions are passed over. -/
theorem readFrom_aside (note : Aside) (reader : Reader) (position : Nat) (rest : List Char)
    : reader.readFrom position (note.written ++ rest)
      = reader.readFrom (position + byteLength note.written) rest := by
  cases note with
  | comment body dashless _ =>
      have hend : ¬ ['-', '-', '>'] <:+: body := fun hinner =>
        dashless (List.IsInfix.trans ⟨[], ['>'], rfl⟩ hinner)
      have hstep (span : Span) : reader.step ⟨.comment body, span⟩ = .ok reader := rfl
      refine readFrom_token _ ?_ (hstep _)
      simpa using readToken_comment hend rest
  | instruction name body nonempty letters _ unended =>
      have hstep (span : Span)
          : reader.step ⟨.instruction (name ++ ' ' :: body), span⟩ = .ok reader :=
        rfl
      refine readFrom_token _ ?_ (hstep _)
      simpa using readToken_named nonempty letters unended rest

/-- Content is read into the innermost open element, by induction on the content.  The tags of an
element surround its own content, during which it is the innermost one.
-/
theorem Content.readFrom_written (content : Content) (document : Document) (rootSpan : Span)
    (element : OpenElement) (others : List OpenElement) (position : Nat) (rest : List Char)
    : (within document rootSpan (element :: others)).readFrom position (content.written ++ rest)
      = (within (content.extend document element.id) rootSpan (element :: others)).readFrom
          (position + byteLength content.written) rest := by
  induction content generalizing document element others position rest with
  | done => rfl
  | character one next ih =>
      rw [written, List.append_assoc, readFrom_character, ih, extend, byteLength_append,
        Nat.add_assoc]
  | verbatim piece next ih =>
      rw [written, List.append_assoc, readFrom_verbatim, ih, extend, byteLength_append,
        Nat.add_assoc]
  | aside note next ih =>
      rw [written, List.append_assoc, readFrom_aside, ih, extend, byteLength_append,
        Nat.add_assoc]
  | empty head next ih =>
      rw [written, List.append_assoc, readFrom_emptyTag, ih, extend, byteLength_append,
        Nat.add_assoc]
  | element head inside next ihInside ihNext =>
      rw [written, List.append_assoc, readFrom_startTag, List.append_assoc, ihInside,
        List.append_assoc, readFrom_endTag head rfl, ihNext, extend]
      simp only [byteLength_append, Nat.add_assoc]

end Within

-----------------------------------------------------------------------------------------
-- Whole documents
-----------------------------------------------------------------------------------------

/-- The document that a manuscript is read into. -/
def document : Manuscript → Document
  | empty head => .new head.tag.text head.given
  | element head inside => inside.extend (.new head.tag.text head.given) Document.root

/-- Behind the root element nothing is left to be read. -/
theorem readFrom_within_nil (document : Document) (rootSpan : Span) (position : Nat)
    : (within document rootSpan []).readFrom position [] = .ok document := by
  rw [readFrom_nil]
  rfl

theorem readFrom_written (manuscript : Manuscript)
    : ({} : Reader).readFrom 0 manuscript.written = .ok manuscript.document := by
  cases manuscript with
  | empty head =>
      have hroot (span : Span)
          : ({} : Reader).step ⟨.emptyTag head.written, span⟩
            = .ok (within (.new head.tag.text head.given) span []) := by
        simp only [step, addElement_root]
        rfl
      have hread := head.readToken_emptyTag []
      rw [written, ← List.append_nil head.emptyTag, Head.emptyTag,
        readFrom_token _ (by simpa using hread) (hroot _), readFrom_within_nil]
      rfl
  | element head inside =>
      have hroot (span : Span)
          : ({} : Reader).step ⟨.startTag head.written, span⟩
            = .ok
                (within (.new head.tag.text head.given) span
                  [⟨Document.root, head.tag.text, span⟩]) := by
        simp only [step, addElement_root]
        rfl
      have hread := head.readToken_startTag (inside.written ++ head.endTag)
      have hend := List.append_nil head.endTag
      rw [written, Head.startTag, readFrom_token _ (by simpa using hread) (hroot _),
        inside.readFrom_written, ← hend, readFrom_endTag head rfl, readFrom_within_nil]
      rfl

/-- The document of a manuscript holds its tree, with the elements numbered in document order. -/
theorem tree_document (manuscript : Manuscript)
    : manuscript.document.tree Document.root = manuscript.tree
      ∧ manuscript.document.descendants = List.range manuscript.document.size := by
  have hgrows (head : Head) {new : Document} {text : List Char} {forest : List Tree}
      (h : Document.Grows (.new head.tag.text head.given) new Document.root (String.ofList text)
        forest)
      : new.tree Document.root = head.tree text forest
        ∧ new.descendants = List.range new.size := by
    rw [Head.tree, ← head.entries_given]
    exact h.tree_root
  cases manuscript with
  | empty head => exact hgrows head (.refl _ _)
  | element head inside => exact hgrows head (inside.grows_extend _ _ (Document.root_lt_size _))

/-- The text of every manuscript is read into a document that holds its tree.  Each element has
the tag, the attributes in order, the text in front of its first child and the children that were
meant, however they were written, and the elements are numbered in document order.
-/
theorem parse_written (manuscript : Manuscript)
    : ∃ document,
        parse (String.ofList manuscript.written) = .ok document
        ∧ document.tree Document.root = manuscript.tree
        ∧ document.descendants = List.range document.size := by
  refine ⟨manuscript.document, ?_, manuscript.tree_document⟩
  have hmark : (String.ofList manuscript.written).toList.head? ≠ some '\uFEFF' := by
    cases manuscript <;> simp [written, Head.emptyTag, Head.startTag]
  rw [parse, readSource_eq_readFrom hmark, String.toList_ofList, manuscript.readFrom_written]
  rfl

end Manuscript

end StoryAtlas.Markup
