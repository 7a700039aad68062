import StoryAtlas.Proofs.Toml.RoundTrip
import StoryAtlas.Settings.Written

/-! Settings that a user writes down.
A profile holds the settings that are chosen, and every other one keeps its default.  A document
in which the profile is written, in any order and among keys that mean nothing here, gives
exactly these settings.
-/

namespace StoryAtlas.Settings

-----------------------------------------------------------------------------------------
-- Profiles
-----------------------------------------------------------------------------------------

/-- The settings that are chosen. -/
structure Profile where
  idAttributes : Option (List String) := none
  labelAttributes : Option (List String) := none
  targetAttributes : Option (List String) := none
  optionTags : Option (List String) := none
  inlinePattern : Option String := none
  maxLabelLength : Option Nat := none
  display : Option Display := none
  graphName : Option String := none
  pageTitle : Option String := none
  scriptUrl : Option String := none

namespace Profile

def conventions (profile : Profile) : Conventions :=
  let defaults : Conventions := {}
  { idAttributes := profile.idAttributes.getD defaults.idAttributes
    labelAttributes := profile.labelAttributes.getD defaults.labelAttributes
    targetAttributes := profile.targetAttributes.getD defaults.targetAttributes
    optionTags := profile.optionTags.getD defaults.optionTags
    inlinePattern := profile.inlinePattern.getD defaults.inlinePattern
    maxLabelLength := profile.maxLabelLength.getD defaults.maxLabelLength }

def rendering (profile : Profile) : RenderSettings :=
  let defaults : RenderSettings := {}
  { display := profile.display.getD defaults.display
    graphName := profile.graphName.getD defaults.graphName
    pageTitle := profile.pageTitle.getD defaults.pageTitle
    scriptUrl := profile.scriptUrl.getD defaults.scriptUrl }

/-- All settings, the chosen ones and the defaults. -/
def settings (profile : Profile) : Settings :=
  { conventions := profile.conventions, rendering := profile.rendering }

/-- A list of names as a value. -/
def namesValue (names : List String) : Value :=
  .list (names.map .text)

/-- A document with the choices of a profile under their keys, and no value under the keys of
other settings.  There may be more sections and more keys.
-/
structure WrittenIn (profile : Profile) (manuscript : Toml.Manuscript) : Prop where
  idAttributes
    : manuscript.value? "inference" "id_attributes" = profile.idAttributes.map namesValue
  labelAttributes
    : manuscript.value? "inference" "label_attributes" = profile.labelAttributes.map namesValue
  targetAttributes
    : manuscript.value? "inference" "target_attributes"
      = profile.targetAttributes.map namesValue
  optionTags : manuscript.value? "inference" "option_tags" = profile.optionTags.map namesValue
  inlinePattern : manuscript.value? "inference" "inline_pattern" = profile.inlinePattern.map .text
  maxLabelLength
    : manuscript.value? "inference" "max_label_len"
      = profile.maxLabelLength.map fun count => .integer count
  fits count : profile.maxLabelLength = some count → count < 0x10000000000000000
  display
    : manuscript.value? "render" "display" = profile.display.map fun display => .text display.name
  graphName : manuscript.value? "render" "graph_name" = profile.graphName.map .text
  pageTitle : manuscript.value? "render" "page_title" = profile.pageTitle.map .text
  scriptUrl : manuscript.value? "render" "script_url" = profile.scriptUrl.map .text

end Profile

-----------------------------------------------------------------------------------------
-- Decoded entries
-----------------------------------------------------------------------------------------

namespace Decode

/-- An entry is what was chosen for it, or else its default. -/
theorem entry_eq {α : Type} (decode : Decoder α) {entries : List (String × Value)}
    {name : String} {encode : α → Value} {chosen : Option α}
    (hlookup : entries.lookup name = chosen.map encode)
    (hdecode : ∀ value, chosen = some value → decode (encode value) = some value) (default : α)
    : entry entries name decode default = some (chosen.getD default) := by
  rw [entry, hlookup]
  cases chosen with
  | none => rfl
  | some value => exact hdecode value rfl

theorem strings_namesValue (names : List String)
    : strings (Profile.namesValue names) = some names := by
  have hitems : (names.map Value.text).mapM string = some names := by
    induction names with
    | nil => rfl
    | cons name names ih =>
        rw [List.map_cons, List.mapM_cons, ih]
        rfl
  exact hitems

theorem count_integer {value : Nat} (h : value < 0x10000000000000000)
    : count (.integer value) = some value := by
  have hlt : (value : Int) < 0x10000000000000000 := by omega
  rw [count, if_pos ⟨Int.natCast_nonneg value, hlt⟩, Int.toNat_natCast]

theorem display_name (choice : Display) : display (.text choice.name) = some choice := by
  cases choice <;> rfl

end Decode

-----------------------------------------------------------------------------------------
-- Decoded documents
-----------------------------------------------------------------------------------------

/-- The values of the section with a name, none without the section. -/
def sectionValues (manuscript : Toml.Manuscript) (name : String) : List (String × Value) :=
  ((manuscript.sections.find? fun part => part.name.text == name).map
    Toml.Manuscript.Section.values).getD []

theorem value?_eq_lookup (manuscript : Toml.Manuscript) (name key : String)
    : manuscript.value? name key = (sectionValues manuscript name).lookup key := by
  unfold Toml.Manuscript.value? sectionValues
  cases manuscript.sections.find? fun part => part.name.text == name <;> rfl

theorem lookup_entries (manuscript : Toml.Manuscript) (name : String)
    : manuscript.entries.lookup name
      = (manuscript.sections.find? fun part => part.name.text == name).map fun part =>
          .table part.values := by
  unfold Toml.Manuscript.entries
  induction manuscript.sections with
  | nil => rfl
  | cons part parts ih =>
      rw [List.map_cons, List.lookup_cons, List.find?_cons, ih, BEq.comm]
      cases part.name.text == name <;> rfl

/-- A section that is missing is decoded like one without keys. -/
theorem entry_entries {α : Type} (manuscript : Toml.Manuscript) (name : String)
    (decode : Decoder α) {default : α} (hempty : decode (.table []) = some default)
    : Decode.entry manuscript.entries name decode default
      = decode (.table (sectionValues manuscript name)) := by
  rw [Decode.entry, lookup_entries, sectionValues]
  cases manuscript.sections.find? fun part => part.name.text == name with
  | none => exact hempty.symm
  | some part => rfl

variable {profile : Profile} {manuscript : Toml.Manuscript}

theorem conventions_of_writtenIn (h : profile.WrittenIn manuscript)
    : Decode.conventions (.table (sectionValues manuscript "inference"))
      = some profile.conventions := by
  have hlookup key := (value?_eq_lookup manuscript "inference" key).symm
  have hnames {key : String} {chosen : Option (List String)}
      (hchosen : manuscript.value? "inference" key = chosen.map Profile.namesValue) :=
    Decode.entry_eq Decode.strings ((hlookup key).trans hchosen) fun names _ =>
      Decode.strings_namesValue names
  have hpattern :=
    Decode.entry_eq Decode.string ((hlookup _).trans h.inlinePattern) fun _ _ => rfl
  have hlength :=
    Decode.entry_eq Decode.count ((hlookup _).trans h.maxLabelLength) fun count hcount =>
      Decode.count_integer (h.fits count hcount)
  dsimp only [Decode.conventions, Decode.sectionEntries?, bind, Option.bind_some]
  rw [hnames h.idAttributes, hnames h.labelAttributes, hnames h.targetAttributes,
    hnames h.optionTags, hpattern, hlength]
  rfl

theorem rendering_of_writtenIn (h : profile.WrittenIn manuscript)
    : Decode.rendering (.table (sectionValues manuscript "render")) = some profile.rendering := by
  have hlookup key := (value?_eq_lookup manuscript "render" key).symm
  have htext {key : String} {chosen : Option String}
      (hchosen : manuscript.value? "render" key = chosen.map .text) :=
    Decode.entry_eq Decode.string ((hlookup key).trans hchosen) fun _ _ => rfl
  have hdisplay :=
    Decode.entry_eq Decode.display ((hlookup _).trans h.display) fun choice _ =>
      Decode.display_name choice
  dsimp only [Decode.rendering, Decode.sectionEntries?, bind, Option.bind_some]
  rw [hdisplay, htext h.graphName, htext h.pageTitle, htext h.scriptUrl]
  rfl

theorem ofValue?_of_writtenIn (h : profile.WrittenIn manuscript)
    : ofValue? (.table manuscript.entries) = some profile.settings := by
  have hconventions :=
    (entry_entries manuscript "inference" Decode.conventions rfl).trans
      (conventions_of_writtenIn h)
  have hrendering :=
    (entry_entries manuscript "render" Decode.rendering rfl).trans (rendering_of_writtenIn h)
  dsimp only [ofValue?, Decode.sectionEntries?, bind, Option.bind_some]
  rw [hconventions, hrendering]
  rfl

/-- A text gives the settings that its values describe. -/
theorem ofToml_eq_ok_iff {text : String} {settings : Settings}
    : ofToml text = .ok settings
      ↔ ∃ value, Toml.read text = .ok value ∧ ofValue? value = some settings := by
  unfold ofToml
  cases Toml.read text with
  | error fault => simp
  | ok value => cases hvalue : ofValue? value <;> simp [hvalue]

/-- A document in which a profile is written gives the settings of the profile. -/
theorem ofToml_text (h : profile.WrittenIn manuscript)
    : ofToml manuscript.text = .ok profile.settings :=
  ofToml_eq_ok_iff.2 ⟨_, Toml.read_text manuscript, ofValue?_of_writtenIn h⟩

end StoryAtlas.Settings
