import StoryAtlas.Document
import StoryAtlas.Identifier
import StoryAtlas.Text.Blank

/-! Targets named in attributes.
The value of a target attribute is a list of identifiers with separators between them and number
signs in front of them.
-/

namespace StoryAtlas.Inference

open StoryAtlas.Text

/-- Whether a character separates targets. -/
def isSeparator (c : Char) : Bool :=
  c == ',' || c == ';' || c == '/' || isBlank c

/-- The pieces between the characters that satisfy a test. -/
def splitWhere (test : Char → Bool) : List Char → List (List Char)
  | [] => [[]]
  | c :: rest =>
      if test c then [] :: splitWhere test rest
      else
        match splitWhere test rest with
        | [] => [[c]]
        | piece :: others => (c :: piece) :: others

/-- The targets in a value: its pieces without leading number signs, empty ones left out. -/
def splitTargets (value : List Char) : List (List Char) :=
  ((splitWhere isSeparator value).map fun piece => piece.dropWhile (· == '#')).filter
    fun target => !target.isEmpty

/-- A target with the name of the attribute it was found in. -/
structure NamedTarget where
  attributeName : String
  target : Id
deriving DecidableEq

/-- The target attributes of an element that have a value, with their values. -/
def targetValues (element : Element) (names : List String) : List (String × String) :=
  names.filterMap fun name =>
    match element.attributes.get? name with
    | some value => if value = "" then none else some (name, value)
    | none => none

/-- The targets of an element in the order of the attribute names. -/
def elementTargets (element : Element) (names : List String) : List NamedTarget :=
  (targetValues element names).flatMap fun (name, value) =>
    (splitTargets value.toList).map fun target => ⟨name, ⟨String.ofList target⟩⟩

/-- Whether a target attribute has a value, even one in which there is no target. -/
def hasTargetValue (element : Element) (names : List String) : Bool :=
  !(targetValues element names).isEmpty

end StoryAtlas.Inference
