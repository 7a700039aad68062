import StoryAtlas.Registry
import StoryAtlas.Settings.Basic
import StoryAtlas.Text.Blank
import StoryAtlas.Text.Bytes

/-! Identifiers and labels of elements, and the nodes they make.
An element with an identifier is a node, the first one of each identifier.  In a document without
identifiers the children of the root are the nodes, under names made of tag and position.
-/

namespace StoryAtlas

open StoryAtlas.Text

namespace Conventions

/-- The value of the first listed attribute that is present and not empty. -/
def firstPresent? (element : Element) (names : List String) : Option String :=
  (names.filterMap element.attributes.get?).find? fun value => value ≠ ""

/-- The identifier of an element: its first identifying value, trimmed.  A blank value decides
that there is none. -/
def findId? (conventions : Conventions) (element : Element) : Option Id :=
  (firstPresent? element conventions.idAttributes).bind fun value =>
    if trim value = "" then none else some ⟨trim value⟩

/-- The mark of a cut label. -/
def ellipsis : String := "..."

/-- Cuts a text in front of the character with a number, if there is one, and marks the cut. -/
def truncate (text : String) (limit : Nat) : String :=
  let chars := text.toList
  match (charOffsets 0 chars)[limit]? with
  | some cut => String.ofList (charsBefore cut chars) ++ ellipsis
  | none => text

/-- Turns line feeds into spaces. -/
def joinLines (text : String) : String :=
  String.ofList (text.toList.map fun c => if c = '\n' then ' ' else c)

/-- The label of an element: a label attribute, its text, the fallback or its tag. -/
def labelFor (conventions : Conventions) (element : Element) (fallback : Option String)
    : String :=
  match firstPresent? element conventions.labelAttributes with
  | some value => truncate (trim value) conventions.maxLabelLength
  | none =>
      let text := trim element.text
      if text ≠ "" then truncate (trim (joinLines text)) conventions.maxLabelLength
      else
        match fallback with
        | some text => if text = "" then element.tag else text
        | none => element.tag

/-- Registers an element if it has an identifier. -/
def collectElement (conventions : Conventions) (registry : Registry)
    (entry : ElementId × Element)
    : Registry :=
  match conventions.findId? entry.2 with
  | none => registry
  | some id =>
      registry.register id (conventions.labelFor entry.2 (some entry.2.tag)) entry.2.tag entry.1

/-- The elements with an identifier as nodes, in document order. -/
def collect (conventions : Conventions) (document : Document) : Registry :=
  document.inOrder.foldl conventions.collectElement .empty

/-- Registers a child of the root under a name made of its tag and position. -/
def synthesizeChild (conventions : Conventions) (document : Document) (registry : Registry)
    (child : ElementId × Nat)
    : Registry :=
  match document.element? child.1 with
  | none => registry
  | some element =>
      registry.register (.synthetic element.tag child.2) (conventions.labelFor element none)
        element.tag child.1

/-- The children of the root as nodes. -/
def synthesize (conventions : Conventions) (document : Document) : Registry :=
  document.rootElement.children.zipIdx.foldl (conventions.synthesizeChild document) .empty

end Conventions

end StoryAtlas
