/-! Values of a settings file.
The value type is what the written forms of settings have in common, whatever the form.
-/

namespace StoryAtlas.Settings

/-- A value with no type of its own. -/
inductive Value
  | null
  | boolean (value : Bool)
  | integer (value : Int)
  /-- A number that is no integer, or a date or time. -/
  | other
  | text (value : String)
  | list (items : List Value)
  /-- Names with values; a name occurs once. -/
  | table (entries : List (String × Value))
deriving Inhabited

end StoryAtlas.Settings
