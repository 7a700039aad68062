import StoryAtlas.Proofs.Markup.SourceSpans
import StoryAtlas.Proofs.Outcome

/-! Diagnostics point at what they talk about.
A reader knows the tags of its open elements and of the root by spans that cut these tags out of
the source, and each problem it meets is one of the token in turn or of such a tag.  So the label
of an unknown reference cuts out the reference, and each label on a tag cuts out the tag.  In a
source with two byte order marks all labels stand three bytes too far in front.
-/

namespace StoryAtlas.Markup

open StoryAtlas.Text

-- What is cut out of which source, spans being moved by so many bytes.
variable {source : String} {shift : Nat}

-----------------------------------------------------------------------------------------
-- Places of problems
-----------------------------------------------------------------------------------------

/-- A span that cuts out the written form of a tag cuts out a tag with its name. -/
theorem cutsTag_of_cuts {span : Span} {content : List Char} (more : List Char)
    (h : Cuts source shift span (String.ofList ('<' :: (content ++ more ++ ['>']))))
    : CutsTag source shift span (String.ofList (tagName content)) := by
  refine ⟨String.ofList (content.dropWhile (fun c => !isMarkupBlank c) ++ more), ?_⟩
  have hsplit : tagName content ++ content.dropWhile (fun c => !isMarkupBlank c) = content :=
    List.takeWhile_append_dropWhile
  have hwritten : String.ofList ('<' :: (content ++ more ++ ['>']))
      = "<" ++ String.ofList (tagName content)
        ++ String.ofList (content.dropWhile (fun c => !isMarkupBlank c) ++ more) ++ ">" := by
    refine String.toList_inj.1 ?_
    conv_lhs => rw [← hsplit]
    simp
  exact hwritten ▸ h

/-- The spans of a problem cut out what it talks about. -/
def Problem.Placed (source : String) (shift : Nat) : Problem → Prop
  | malformed _ _ enclosing =>
      ∀ element ∈ enclosing, CutsTag source shift element.span element.tag
  | unclosedElement element => CutsTag source shift element.span element.tag
  | undefinedReference name span => Cuts source shift span ("&" ++ name ++ ";")
  | unexpandableValue _ _ span => ∃ tag, CutsTag source shift span tag
  | malformedAttribute _ span => ∃ tag, CutsTag source shift span tag
  | missingRoot _ => True
  | secondRoot tag span rootSpan =>
      CutsTag source shift span tag ∧ ∃ root, CutsTag source shift rootSpan root
  | textAfterRoot _ rootSpan => ∃ root, CutsTag source shift rootSpan root

/-- The spans that a reader keeps cut out tags, and those of its problems what these talk about. -/
structure Reader.Placed (source : String) (shift : Nat) (reader : Reader) : Prop where
  problems : ∀ problem ∈ reader.problems, problem.Placed source shift
  opened : ∀ element ∈ reader.opened, CutsTag source shift element.span element.tag
  root : ∀ root ∈ reader.root, ∃ tag, CutsTag source shift root.rootSpan tag

/-- What a step leaves behind: a reader whose spans are placed, or problems that are. -/
abbrev Keeps (source : String) (shift : Nat) (outcome : Except (List Problem) Reader) : Prop :=
  Meets (Reader.Placed source shift) (∀ problem ∈ ·, problem.Placed source shift) outcome

namespace Reader.Placed

variable {reader : Reader}

theorem start : Reader.Placed source shift {} where
  problems := by simp
  opened := by simp
  root := by simp

theorem stop (h : reader.Placed source shift) {problem : Problem}
    (hproblem : problem.Placed source shift)
    : ∀ other ∈ reader.stop problem, other.Placed source shift := by
  intro other hother
  rcases List.mem_append.1 hother with hold | hnew
  · exact h.problems other hold
  · exact List.mem_singleton.1 hnew ▸ hproblem

theorem malformed (h : reader.Placed source shift) (cause : SyntaxFault) (offset : Nat)
    : (reader.malformed cause offset).Placed source shift := fun element helement =>
  h.opened element (List.mem_of_mem_head? helement)

/-- The problems of a tag are labelled with it, by induction on its attributes. -/
theorem readTag {span : Span} {tag : String} (htag : CutsTag source shift span tag)
    (entities : Entities) (attributes : List (Except AttributeFault RawAttribute))
    : ∀ problem ∈ (Reader.readTag entities span attributes).2, problem.Placed source shift := by
  induction attributes with
  | nil => simp [Reader.readTag]
  | cons entry rest ih =>
      cases entry with
      | error cause =>
          simp only [Reader.readTag, List.forall_mem_cons]
          exact ⟨⟨tag, htag⟩, ih⟩
      | ok raw =>
          simp only [Reader.readTag, List.forall_mem_append]
          refine ⟨fun problem hproblem => ?_, ih⟩
          unfold attributeValue at hproblem
          dsimp only at hproblem
          split at hproblem
          · simp at hproblem
          · obtain rfl := by simpa using hproblem
            exact ⟨tag, htag⟩

/-- The element of a tag is placed at the tag. -/
theorem addElement (h : reader.Placed source shift) {content : List Char} {span : Span}
    (htag : CutsTag source shift span (String.ofList (tagName content)))
    : Meets
        (fun added : Reader × OpenElement =>
          added.1.Placed source shift ∧ CutsTag source shift added.2.span added.2.tag)
        (∀ problem ∈ ·, problem.Placed source shift) (reader.addElement content span) := by
  have hnoted : Reader.Placed source shift
      {
        reader with
        problems :=
          reader.problems ++ (Reader.readTag reader.entities span (attributesOf content)).2
      } :=
    ⟨List.forall_mem_append.2 ⟨h.problems, readTag htag _ _⟩, h.opened, h.root⟩
  unfold Reader.addElement
  dsimp only
  cases hroot : reader.root with
  | none =>
      refine .ok ⟨⟨hnoted.problems, h.opened, ?_⟩, htag⟩
      rintro root hmem
      obtain rfl := Option.some.inj hmem
      exact ⟨_, htag⟩
  | some root =>
      have hrootTag := h.root root hroot
      cases hopened : reader.opened with
      | nil =>
          refine .error ?_
          rw [← hroot, ← hopened]
          exact hnoted.stop ⟨htag, hrootTag⟩
      | cons parent others =>
          refine .ok ⟨⟨hnoted.problems, hopened ▸ h.opened, ?_⟩, htag⟩
          rintro next hmem
          obtain rfl := Option.some.inj hmem
          exact hrootTag

/-- Text is put where it belongs, or is no problem of a tag. -/
theorem addText (h : reader.Placed source shift) (text : List Char) (span : Span)
    : Keeps source shift (reader.addText text span) := by
  unfold Reader.addText
  split
  · next root element others hroot hopened =>
      refine .ok { h with root := ?_ }
      rintro next hmem
      obtain rfl := Option.some.inj hmem
      exact h.root root hroot
  · split
    · exact .ok h
    · split
      · next root hroot => exact .error (h.stop (h.root root hroot))
      · exact .error (h.stop (h.malformed _ _))

theorem closeElement (h : reader.Placed source shift) (content : List Char) (span : Span)
    : Keeps source shift (reader.closeElement content span) := by
  unfold Reader.closeElement
  dsimp only
  generalize String.ofList _ = name
  split
  · exact .error (h.stop (h.malformed _ _))
  · next element others hopened =>
      split
      · refine .ok { h with opened := fun other hother => ?_ }
        exact h.opened other (hopened ▸ List.mem_cons_of_mem element hother)
      · exact .error (h.stop (h.malformed _ _))

/-- A token whose span cuts it out keeps the reader placed. -/
theorem step (h : reader.Placed source shift) {lexeme : Lexeme}
    (hcuts : Cuts source shift lexeme.span (String.ofList lexeme.token.written))
    : Keeps source shift (reader.step lexeme) := by
  obtain ⟨token, span⟩ := lexeme
  cases token with
  | startTag content =>
      refine (h.addElement (cutsTag_of_cuts [] (by simpa [Token.written] using hcuts))).bind ?_
      rintro ⟨next, element⟩ ⟨hnext, helement⟩
      exact .ok { hnext with opened := List.forall_mem_cons.2 ⟨helement, hnext.opened⟩ }
  | emptyTag content =>
      refine (h.addElement (cutsTag_of_cuts ['/'] (by simpa [Token.written] using hcuts))).bind ?_
      rintro ⟨next, element⟩ ⟨hnext, -⟩
      exact .ok hnext
  | endTag content => exact h.closeElement content span
  | text first others => exact h.addText _ span
  | cdata chars => exact h.addText _ span
  | reference name =>
      simp only [Reader.step]
      split
      · exact h.addText _ span
      · refine .ok { h with problems := List.forall_mem_append.2 ⟨h.problems, ?_⟩ }
        rintro problem hproblem
        obtain rfl := List.mem_singleton.1 hproblem
        simpa [Token.written, Problem.Placed, String.append_assoc] using hcuts
  | doctype body => exact .ok { h with }
  | comment body => exact .ok h
  | instruction body => exact .ok h

/-- The problems with which reading ends are placed. -/
theorem finish (h : reader.Placed source shift) (ending : Ending)
    : Meets (fun _ => True) (∀ problem ∈ ·, problem.Placed source shift)
        (reader.finish ending) := by
  unfold Reader.finish
  split
  · exact .error (h.stop (h.malformed _ _))
  · split
    · next element others hopened =>
        exact .error (h.stop (h.opened element (hopened ▸ List.mem_cons_self)))
    · exact .error (h.stop trivial)
    · split
      · exact .ok trivial
      · exact .error h.problems

end Reader.Placed

/-- All problems of a source text are placed in it, when spans are moved by the bytes that they
leave out.
-/
theorem placed_of_readSource {source : String} {problems : List Problem}
    (h : readSource source = .error problems)
    : ∀ problem ∈ problems, problem.Placed source (uncountedBytes source) := by
  have hrun : Keeps source (uncountedBytes source)
      ((lexSource source).1.foldlM Reader.step {}) :=
    Meets.foldlM (fun lexeme hlexeme _ hreader => hreader.step (cuts_of_mem_lexSource hlexeme))
      .start
  have hread := hrun.bind fun hreader => hreader.finish (lexSource source).2
  change Meets _ _ (readSource source) at hread
  rw [h] at hread
  cases hread with
  | error hproblems => exact hproblems

-----------------------------------------------------------------------------------------
-- Labels of diagnostics
-----------------------------------------------------------------------------------------

/-- The labels of a diagnostic on references and tags cut them out of a source text, when spans
are moved by a number of bytes.
-/
structure PointsInto (source : String) (shift : Nat) (diagnostic : Diagnostic) : Prop where
  /-- A reference is cut out with the name of the message, or else the tag of an attribute. -/
  undefined
    : diagnostic.code = .undefinedEntity
      → ∃ span,
          diagnostic.primarySpan? = some span
          ∧ ((∃ name,
                diagnostic.message = "undefined entity `&" ++ name ++ ";`"
                ∧ Cuts source shift span ("&" ++ name ++ ";"))
            ∨ ∃ name cause tag,
                diagnostic.message = "cannot expand value of attribute `" ++ name ++ "`: " ++ cause
                ∧ CutsTag source shift span tag)
  unclosed
    : diagnostic.code = .unclosedElement
      → ∃ tag span,
          diagnostic.primarySpan? = some span
          ∧ diagnostic.message = "element `" ++ tag ++ "` is never closed"
          ∧ CutsTag source shift span tag
  malformedAttribute
    : diagnostic.code = .malformedAttribute
      → ∃ tag span, diagnostic.primarySpan? = some span ∧ CutsTag source shift span tag
  /-- A second root is cut out with its name; text behind the root is no tag. -/
  afterRoot
    : diagnostic.code = .contentAfterRoot
      → (∃ tag span,
            diagnostic.primarySpan? = some span
            ∧ diagnostic.message = "unexpected element `" ++ tag ++ "` after the root element"
            ∧ CutsTag source shift span tag)
        ∨ diagnostic.message = "unexpected text after the root element"
  /-- Every other label is on the tag of an enclosing element, which it names, or of the root. -/
  context
    : ∀ label ∈ diagnostic.labels,
        label.kind = .context
        → ∃ tag,
            (label.message = "inside `" ++ tag ++ "`" ∨ label.message = "root element")
            ∧ CutsTag source shift label.span tag

/-- A context label stands behind the primary one. -/
theorem mem_of_mem_cons_primary {label : Label} {span : Span} {message : String}
    {others : List Label} (h : label ∈ (⟨.primary, span, message⟩ : Label) :: others)
    (hkind : label.kind = .context)
    : label ∈ others := by
  rcases List.mem_cons.1 h with rfl | hother
  · cases hkind
  · exact hother

/-- The diagnostic of a problem that is placed points at it, by cases on the problem. -/
theorem Problem.Placed.pointsInto {problem : Problem} (h : problem.Placed source shift)
    : PointsInto source shift problem.diagnostic := by
  cases problem with
  | malformed cause offset enclosing =>
      refine ⟨nofun, nofun, nofun, nofun, fun label hlabel hkind => ?_⟩
      have hcontext := mem_of_mem_cons_primary hlabel hkind
      rw [Option.mem_toList, Option.map_eq_some_iff] at hcontext
      obtain ⟨element, helement, rfl⟩ := hcontext
      exact ⟨element.tag, Or.inl rfl, h element helement⟩
  | unclosedElement element =>
      refine ⟨nofun, fun _ => ⟨element.tag, element.span, rfl, rfl, h⟩, nofun, nofun, ?_⟩
      exact fun label hlabel hkind => nomatch mem_of_mem_cons_primary hlabel hkind
  | undefinedReference name span =>
      refine ⟨fun _ => ⟨span, rfl, Or.inl ⟨name, rfl, h⟩⟩, nofun, nofun, nofun, ?_⟩
      exact fun label hlabel hkind => nomatch mem_of_mem_cons_primary hlabel hkind
  | unexpandableValue name cause span =>
      obtain ⟨tag, htag⟩ := h
      refine ⟨fun _ => ⟨span, rfl, Or.inr ⟨name, cause.message, tag, rfl, htag⟩⟩, nofun, nofun,
        nofun, ?_⟩
      exact fun label hlabel hkind => nomatch mem_of_mem_cons_primary hlabel hkind
  | malformedAttribute cause span =>
      obtain ⟨tag, htag⟩ := h
      refine ⟨nofun, nofun, fun _ => ⟨tag, span, rfl, htag⟩, nofun, ?_⟩
      exact fun label hlabel hkind => nomatch mem_of_mem_cons_primary hlabel hkind
  | missingRoot offset =>
      refine ⟨nofun, nofun, nofun, nofun, ?_⟩
      exact fun label hlabel hkind => nomatch mem_of_mem_cons_primary hlabel hkind
  | secondRoot tag span rootSpan =>
      obtain ⟨htag, root, hroot⟩ := h
      refine ⟨nofun, nofun, nofun, fun _ => Or.inl ⟨tag, span, rfl, rfl, htag⟩, ?_⟩
      intro label hlabel hkind
      obtain rfl := List.mem_singleton.1 (mem_of_mem_cons_primary hlabel hkind)
      exact ⟨root, Or.inr rfl, hroot⟩
  | textAfterRoot span rootSpan =>
      obtain ⟨root, hroot⟩ := h
      refine ⟨nofun, nofun, nofun, fun _ => Or.inr rfl, ?_⟩
      intro label hlabel hkind
      obtain rfl := List.mem_singleton.1 (mem_of_mem_cons_primary hlabel hkind)
      exact ⟨root, Or.inr rfl, hroot⟩

/-- Every diagnostic of a source text points into it, except that behind a second byte order mark
all labels stand too far in front by its three bytes.
-/
theorem pointsInto_of_parse {source : String} {error : ParseError}
    (h : parse source = .error error)
    : ∀ diagnostic ∈ error.diagnostics,
        PointsInto source (uncountedBytes source) diagnostic := by
  unfold parse at h
  cases hread : readSource source with
  | ok document =>
      rw [hread, mapError_ok] at h
      cases h
  | error problems =>
      rw [hread, mapError_error, Except.error.injEq] at h
      subst h
      intro diagnostic hdiagnostic
      obtain ⟨problem, hproblem, rfl⟩ := List.mem_map.1 hdiagnostic
      exact (placed_of_readSource hread problem hproblem).pointsInto

/-- A source behind one byte order mark, with unknown references in an attribute and in text and
an element that is never closed. -/
theorem pointsInto_of_parse_of_one_mark
    : ∃ error,
        parse "\uFEFF<s a='&x;'>é&y;" = .error error
        ∧ error.diagnostics.map Diagnostic.primarySpan?
          = [some (.between 3 14), some (.between 16 19), some (.between 3 14)]
        ∧ ∀ diagnostic ∈ error.diagnostics,
            PointsInto "\uFEFF<s a='&x;'>é&y;" 0 diagnostic := by
  have hspans
      : ((parse "\uFEFF<s a='&x;'>é&y;").mapError fun error =>
            error.diagnostics.map Diagnostic.primarySpan?).map Document.size
        = .error [some (.between 3 14), some (.between 16 19), some (.between 3 14)] := by
    decide +kernel
  cases h : parse "\uFEFF<s a='&x;'>é&y;" with
  | ok document =>
      rw [h] at hspans
      cases hspans
  | error error =>
      rw [h] at hspans
      exact ⟨error, rfl, Except.error.inj hspans, pointsInto_of_parse h⟩

/-- Not every diagnostic points into its source: behind two byte order marks the label of an
unknown reference cuts out another piece.
-/
theorem not_forall_parse_pointsInto
    : ¬ ∀ (source : String) (error : ParseError),
          parse source = .error error
          → ∀ diagnostic ∈ error.diagnostics, PointsInto source 0 diagnostic := by
  intro hall
  have hparse : (parse "\uFEFF\uFEFF<a>&x;</a>").map Document.size
      = .error ⟨[(Problem.undefinedReference "x" (.between 6 9)).diagnostic]⟩ := by
    decide +kernel
  cases h : parse "\uFEFF\uFEFF<a>&x;</a>" with
  | ok document =>
      rw [h] at hparse
      cases hparse
  | error error =>
      rw [h] at hparse
      obtain rfl := Except.error.inj hparse
      obtain ⟨span, hspan, hpoints⟩ := (hall _ _ h _ List.mem_cons_self).undefined rfl
      obtain rfl := Option.some.inj hspan
      rcases hpoints with ⟨name, -, hcuts⟩ | ⟨name, cause, -, hmessage, -⟩
      · have htag : Cuts "\uFEFF\uFEFF<a>&x;</a>" 0 (.between 6 9) "<a>" :=
          ⟨"\uFEFF\uFEFF", "&x;</a>", by decide +kernel, by decide +kernel, by decide +kernel⟩
        have hpiece := congrArg (·.toList.head?) (htag.unique hcuts)
        simp at hpiece
      · have hfirst := congrArg (·.toList.head?) hmessage
        simp [Problem.diagnostic] at hfirst

end StoryAtlas.Markup
