import StoryAtlas.Graph
import StoryAtlas.Inference.Targets
import StoryAtlas.Pattern.Compiled
import StoryAtlas.Settings.Basic
import StoryAtlas.Text.Lowercase

/-! Detectors of edges.
Each detector looks for one kind of sign at the element of a node and gives the edges that leave
the node, in the order in which it found them.
-/

namespace StoryAtlas.Inference

/-- The document and the nodes among which edges are looked for. -/
structure Context where
  document : Document
  nodes : Registry

namespace Context

/-- The element of a node. -/
def element? (context : Context) (node : Node) : Option Element :=
  context.document.element? node.element

/-- The identifier of the next node. -/
def nextId? (context : Context) (node : Node) : Option Id :=
  (context.nodes.nextAfter? node).map Node.id

/-- The children of a node's element. -/
def childElements (context : Context) (node : Node) : List Element :=
  (context.document.children node.element).filterMap context.document.element?

end Context

/-- The targets named by the target attributes of a node's element. -/
def attributeEdges (targetNames : List String) (context : Context) (node : Node) : List Edge :=
  match context.element? node with
  | none => []
  | some element =>
      (elementTargets element targetNames).map fun found =>
        ⟨node.id, found.target, .ownAttribute found.attributeName⟩

/-- The targets of the markers in the text of a node's element. -/
def inlineEdges (pattern : Pattern) (context : Context) (node : Node) : List Edge :=
  match context.element? node with
  | none => []
  | some element =>
      (pattern.groupPieces 1 element.text.toList).map fun target =>
        ⟨node.id, ⟨String.ofList target⟩, .inlineMarker⟩

/-- Whether a child is an option: by its tag, without case, or by a target attribute. -/
def isOption (optionTags targetNames : List String) (child : Element) : Bool :=
  (optionTags.map Text.toLowercase).contains (Text.toLowercase child.tag)
    || targetNames.any child.attributes.contains

/-- The edges of one option: its targets, or the next node if it names none. -/
def optionEdges (targetNames : List String) (node : Node) (next? : Option Id) (single : Bool)
    (child : Element)
    : List Edge :=
  if hasTargetValue child targetNames then
    (elementTargets child targetNames).map fun found =>
      ⟨node.id, found.target, .childAttribute child.tag found.attributeName⟩
  else
    match next? with
    | none => []
    | some next =>
        [⟨node.id, next, if single then .childDefaultNext else .childTagDefaultNext child.tag⟩]

/-- The edges of the option children of a node's element. -/
def childEdges (optionTags targetNames : List String) (context : Context) (node : Node)
    : List Edge :=
  let options := (context.childElements node).filter (isOption optionTags targetNames)
  options.flatMap
    (optionEdges targetNames node (context.nextId? node) (options.length == 1))

/-- A kind of sign with what is needed to look for it. -/
inductive Detector
  | targetAttribute (targetNames : List String)
  | inlineMarker (pattern : Pattern)
  | optionChild (optionTags targetNames : List String)

namespace Detector

def name : Detector → String
  | targetAttribute _ => "target-attribute"
  | inlineMarker _ => "inline-marker"
  | optionChild _ _ => "option-child"

/-- The edges that leave a node, as far as the detector sees. -/
def detect : Detector → Context → Node → List Edge
  | targetAttribute targetNames => attributeEdges targetNames
  | inlineMarker pattern => inlineEdges pattern
  | optionChild optionTags targetNames => childEdges optionTags targetNames

end Detector

end StoryAtlas.Inference
