import StoryAtlas.Diagnostic
import StoryAtlas.Document
import StoryAtlas.Markup.Attribute
import StoryAtlas.Markup.Entity

/-! Reading a markup text into a document.
The reader goes through the tokens with the stack of open elements.  A problem with a reference
or an attribute is noted and reading goes on; any other problem ends it.  A text is accepted when
no problem was met at all.
-/

namespace StoryAtlas.Markup

open StoryAtlas.Text

/-- An element whose end tag has not been read. -/
structure OpenElement where
  id : ElementId
  tag : String
  span : Span
deriving DecidableEq

/-- Something wrong with a text, and where. -/
inductive Problem
  | malformed (cause : SyntaxFault) (offset : Nat) (enclosing : Option OpenElement)
  | unclosedElement (element : OpenElement)
  | undefinedReference (name : String) (span : Span)
  | unexpandableValue (name : String) (cause : ExpansionFault) (span : Span)
  | malformedAttribute (cause : AttributeFault) (span : Span)
  | missingRoot (offset : Nat)
  | secondRoot (tag : String) (span rootSpan : Span)
  | textAfterRoot (span rootSpan : Span)
deriving DecidableEq

namespace Problem

/-- Whether reading goes on behind a problem. -/
def isRecoverable : Problem → Bool
  | undefinedReference .. | unexpandableValue .. | malformedAttribute .. => true
  | _ => false

/-- The diagnostic that shows a problem. -/
def diagnostic : Problem → Diagnostic
  | malformed cause offset enclosing =>
      { code := .malformed
        message := "malformed XML: " ++ cause.message
        labels :=
          ⟨.primary, .point offset, "here"⟩
            :: (enclosing.map fun element =>
              ⟨.context, element.span, "inside `" ++ element.tag ++ "`"⟩).toList }
  | unclosedElement element =>
      { code := .unclosedElement
        message := "element `" ++ element.tag ++ "` is never closed"
        labels := [⟨.primary, element.span, "opened here"⟩]
        help := some ("add a matching `</" ++ element.tag ++ ">`") }
  | undefinedReference name span =>
      { code := .undefinedEntity
        message := "undefined entity `&" ++ name ++ ";`"
        labels := [⟨.primary, span, "unknown entity"⟩]
        help := some ("declare it in the DOCTYPE or use &lt; &gt; &amp; &apos; &quot; "
          ++ "or a character reference") }
  | unexpandableValue name cause span =>
      { code := .undefinedEntity
        message := "cannot expand value of attribute `" ++ name ++ "`: " ++ cause.message
        labels := [⟨.primary, span, "in this tag"⟩] }
  | malformedAttribute cause span =>
      { code := .malformedAttribute
        message := "malformed attribute: " ++ cause.message
        labels := [⟨.primary, span, "in this tag"⟩] }
  | missingRoot offset =>
      { code := .missingRoot
        message := "document has no root element"
        labels := [⟨.primary, .point offset, "input ends here"⟩] }
  | secondRoot tag span rootSpan =>
      { code := .contentAfterRoot
        message := "unexpected element `" ++ tag ++ "` after the root element"
        labels :=
          [⟨.primary, span, "second top-level element"⟩, ⟨.context, rootSpan, "root element"⟩]
        help := some "an XML document has exactly one root element" }
  | textAfterRoot span rootSpan =>
      { code := .contentAfterRoot
        message := "unexpected text after the root element"
        labels :=
          [⟨.primary, span, "text outside the root element"⟩,
            ⟨.context, rootSpan, "root element"⟩] }

end Problem

/-- The document read so far, with the span of its root tag. -/
structure PartialDocument where
  document : Document
  rootSpan : Span

/-- What a reader knows between two tokens.  The innermost open element comes first, the latest
problem last. -/
structure Reader where
  root : Option PartialDocument := none
  opened : List OpenElement := []
  entities : Entities := []
  problems : List Problem := []

namespace Reader

/-- Notes a problem behind which reading goes on. -/
def note (reader : Reader) (problem : Problem) : Reader :=
  { reader with problems := reader.problems ++ [problem] }

/-- All problems, when reading ends at the given one. -/
def stop (reader : Reader) (problem : Problem) : List Problem :=
  reader.problems ++ [problem]

/-- The problem that wrong markup is for this reader. -/
def malformed (reader : Reader) (cause : SyntaxFault) (offset : Nat) : Problem :=
  .malformed cause offset reader.opened.head?

/-- The value of a raw attribute, and the problem with it if its references cannot be expanded.
Then the value stays as it is written. -/
def attributeValue (entities : Entities) (span : Span) (raw : RawAttribute)
    : String × Option Problem :=
  let value := normalizeValue raw.value
  match expand (lookupEntity? entities) value with
  | .ok text => (String.ofList text, none)
  | .error cause =>
      (String.ofList value, some (.unexpandableValue (String.ofList raw.key) cause span))

/-- The attributes of a tag and the problems met in it, both in order. -/
def readTag (entities : Entities) (span : Span)
    : List (Except AttributeFault RawAttribute) → List (String × String) × List Problem
  | [] => ([], [])
  | .error cause :: rest =>
      let (attributes, problems) := readTag entities span rest
      (attributes, .malformedAttribute cause span :: problems)
  | .ok raw :: rest =>
      let (attributes, problems) := readTag entities span rest
      let (value, problem?) := attributeValue entities span raw
      ((String.ofList raw.key, value) :: attributes, problem?.toList ++ problems)

/-- Adds the element of a start tag or empty tag, and gives back its handle. -/
def addElement (reader : Reader) (content : List Char) (span : Span)
    : Except (List Problem) (Reader × OpenElement) :=
  let tag := String.ofList (tagName content)
  let (entries, problems) := readTag reader.entities span (attributesOf content)
  let attributes := Attributes.ofList entries
  let reader := { reader with problems := reader.problems ++ problems }
  match reader.root, reader.opened with
  | none, _ =>
      .ok ({ reader with root := some ⟨.new tag attributes, span⟩ }, ⟨Document.root, tag, span⟩)
  | some root, [] => .error (reader.stop (.secondRoot tag span root.rootSpan))
  | some root, parent :: _ =>
      let (document, id) := root.document.addChild parent.id tag attributes
      .ok ({ reader with root := some { root with document } }, ⟨id, tag, span⟩)

/-- Adds text to the innermost open element.  Outside the root element only blanks may stand. -/
def addText (reader : Reader) (text : List Char) (span : Span)
    : Except (List Problem) Reader :=
  match reader.root, reader.opened with
  | some root, element :: _ =>
      let document := root.document.appendText element.id (String.ofList text)
      .ok { reader with root := some { root with document } }
  | root?, _ =>
      if isAllBlank text then .ok reader
      else
        match root? with
        | some root => .error (reader.stop (.textAfterRoot span root.rootSpan))
        | none => .error (reader.stop (reader.malformed .textBeforeRoot span.start))

/-- Leaves the innermost open element, whose tag the end tag has to repeat. -/
def closeElement (reader : Reader) (content : List Char) (span : Span)
    : Except (List Problem) Reader :=
  let trimmed := dropEndWhile isMarkupBlank content
  let name := String.ofList (if trimmed.isEmpty then content else trimmed)
  match reader.opened with
  | [] => .error (reader.stop (reader.malformed (.unmatchedEnd name) span.start))
  | element :: others =>
      if element.tag = name then .ok { reader with opened := others }
      else
        .error (reader.stop (reader.malformed (.mismatchedEnd element.tag name) span.start))

/-- Reads one token. -/
def step (reader : Reader) (lexeme : Lexeme) : Except (List Problem) Reader :=
  match lexeme.token with
  | .startTag content => do
      let (reader, element) ← reader.addElement content lexeme.span
      .ok { reader with opened := element :: reader.opened }
  | .emptyTag content => do
      let (reader, _) ← reader.addElement content lexeme.span
      .ok reader
  | .endTag content => reader.closeElement content lexeme.span
  | .text first others =>
      reader.addText (normalizeLineBreaks (first :: others)) lexeme.span
  | .cdata chars => reader.addText (normalizeLineBreaks chars) lexeme.span
  | .reference name =>
      match resolveReference? reader.entities name with
      | some text => reader.addText text lexeme.span
      | none => .ok (reader.note (.undefinedReference (String.ofList name) lexeme.span))
  | .doctype body => .ok { reader with entities := declaredEntities body }
  | .comment _ => .ok reader
  | .instruction _ => .ok reader

/-- Ends reading where the tokens end. -/
def finish (reader : Reader) (ending : Ending) : Except (List Problem) Document :=
  match ending with
  | .broken cause position => .error (reader.stop (reader.malformed cause position))
  | .complete position =>
      match reader.opened, reader.root with
      | element :: _, _ => .error (reader.stop (.unclosedElement element))
      | [], none => .error (reader.stop (.missingRoot position))
      | [], some root =>
          if reader.problems.isEmpty then .ok root.document else .error reader.problems

end Reader

/-- The tokens of a source text.  Up to two byte order marks may come first, of which only the
first counts in byte offsets. -/
def lexSource (source : String) : List Lexeme × Ending :=
  match source.toList with
  | '\uFEFF' :: '\uFEFF' :: chars => lex 3 chars
  | '\uFEFF' :: chars => lex 3 chars
  | chars => lex 0 chars

/-- The document of a source text, or all problems met. -/
def readSource (source : String) : Except (List Problem) Document :=
  let (lexemes, ending) := lexSource source
  (lexemes.foldlM Reader.step {}).bind fun reader => reader.finish ending

/-- The document of a source text, or the diagnostics of its problems. -/
def parse (source : String) : Except ParseError Document :=
  (readSource source).mapError fun problems => ⟨problems.map Problem.diagnostic⟩

end StoryAtlas.Markup
