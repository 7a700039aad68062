import StoryAtlas.Settings.Basic
import StoryAtlas.Settings.Value

/-! Settings from values.
A section is a table with names of its own, of which unknown ones are ignored and missing ones
keep their defaults; it may also be a list of its entries in order, cut off anywhere.  A value
of a wrong type is refused, and so is null.
-/

namespace StoryAtlas.Settings

/-- Takes a value to what it stands for, or to nothing if its type is wrong. -/
abbrev Decoder (α : Type) := Value → Option α

namespace Decode

def string : Decoder String
  | .text value => some value
  | _ => none

/-- A list whose items are all strings. -/
def strings : Decoder (List String)
  | .list items => items.mapM string
  | _ => none

/-- A count that fits a machine word. -/
def count : Decoder Nat
  | .integer value => if 0 ≤ value ∧ value < 0x10000000000000000 then some value.toNat else none
  | _ => none

/-- A choice by its name, which may also be the only name of a table and have no value. -/
def display : Decoder Display
  | .text name => Display.ofName? name
  | .table [(name, .null)] => Display.ofName? name
  | _ => none

/-- The values of a section by the names of its entries, which are given in order. -/
def sectionEntries? (names : List String) : Decoder (List (String × Value))
  | .table entries => some entries
  | .list items => if items.length ≤ names.length then some (names.zip items) else none
  | _ => none

/-- An entry of a section, or its default if the section lacks it. -/
def entry {α : Type} (entries : List (String × Value)) (name : String) (decode : Decoder α)
    (default : α)
    : Option α :=
  match entries.lookup name with
  | none => some default
  | some value => decode value

def conventions : Decoder Conventions := fun value => do
  let entries ←
    sectionEntries? ["id_attributes", "label_attributes", "target_attributes", "option_tags",
      "inline_pattern", "max_label_len"] value
  let defaults : Conventions := {}
  some
    { idAttributes := ← entry entries "id_attributes" strings defaults.idAttributes
      labelAttributes := ← entry entries "label_attributes" strings defaults.labelAttributes
      targetAttributes := ← entry entries "target_attributes" strings defaults.targetAttributes
      optionTags := ← entry entries "option_tags" strings defaults.optionTags
      inlinePattern := ← entry entries "inline_pattern" string defaults.inlinePattern
      maxLabelLength := ← entry entries "max_label_len" count defaults.maxLabelLength }

def rendering : Decoder RenderSettings := fun value => do
  let entries ← sectionEntries? ["display", "graph_name", "page_title", "script_url"] value
  let defaults : RenderSettings := {}
  some
    { display := ← entry entries "display" display defaults.display
      graphName := ← entry entries "graph_name" string defaults.graphName
      pageTitle := ← entry entries "page_title" string defaults.pageTitle
      scriptUrl := ← entry entries "script_url" string defaults.scriptUrl }

end Decode

/-- The settings a value describes. -/
def ofValue? (value : Value) : Option Settings := do
  let entries ← Decode.sectionEntries? ["inference", "render"] value
  some
    { conventions := ← Decode.entry entries "inference" Decode.conventions {}
      rendering := ← Decode.entry entries "render" Decode.rendering {} }

end StoryAtlas.Settings
