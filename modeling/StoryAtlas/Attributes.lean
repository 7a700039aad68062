/-! The attributes of an element.
Attributes keep the order in which their names were first written, and a name occurs once; a
name given again takes the new value in its old place.
-/

namespace StoryAtlas

/-- Names with values, in the order of first occurrence. -/
structure Attributes where
  entries : List (String × String)
  distinct : (entries.map Prod.fst).Nodup
deriving DecidableEq

namespace Attributes

def empty : Attributes :=
  ⟨[], List.nodup_nil⟩

/-- The names in order. -/
def names (attributes : Attributes) : List String :=
  attributes.entries.map Prod.fst

/-- The value of a name. -/
def get? (attributes : Attributes) (name : String) : Option String :=
  attributes.entries.lookup name

def contains (attributes : Attributes) (name : String) : Bool :=
  (attributes.get? name).isSome

/-- Replaces the value of every entry with the name. -/
def replaceValue (name value : String) (entries : List (String × String))
    : List (String × String) :=
  entries.map fun entry => if entry.1 = name then (name, value) else entry

theorem map_fst_replaceValue (name value : String) (entries : List (String × String))
    : (replaceValue name value entries).map Prod.fst = entries.map Prod.fst := by
  simp only [replaceValue, List.map_map]
  refine List.map_congr_left fun entry _ => ?_
  by_cases h : entry.1 = name <;> simp [h]

/-- Gives a name a value, in its old place if it has one and at the end otherwise. -/
def insert (attributes : Attributes) (name value : String) : Attributes :=
  if h : name ∈ attributes.entries.map Prod.fst then
    ⟨replaceValue name value attributes.entries,
      (map_fst_replaceValue name value _).symm ▸ attributes.distinct⟩
  else
    ⟨attributes.entries ++ [(name, value)], by
      have hd := attributes.distinct
      rw [List.map_append, List.nodup_append]
      refine ⟨hd, by simp, ?_⟩
      simp only [List.map_cons, List.map_nil, List.mem_singleton]
      rintro a ha b rfl rfl
      exact h ha⟩

/-- The attributes written in a list, later values replacing earlier ones. -/
def ofList (entries : List (String × String)) : Attributes :=
  entries.foldl (fun attributes entry => attributes.insert entry.1 entry.2) empty

theorem entries_insert_of_not_mem {attributes : Attributes} {name : String}
    (h : name ∉ attributes.names) (value : String)
    : (attributes.insert name value).entries = attributes.entries ++ [(name, value)] := by
  unfold insert
  split
  · next hmem => exact absurd hmem h
  · rfl

/-- Entries whose names are all new come behind the others, by induction on these entries. -/
theorem entries_foldl_insert (attributes : Attributes) (entries : List (String × String))
    (h : (attributes.names ++ entries.map Prod.fst).Nodup)
    : (entries.foldl (fun attributes entry => attributes.insert entry.1 entry.2)
          attributes).entries
        = attributes.entries ++ entries := by
  induction entries generalizing attributes with
  | nil => simp
  | cons entry rest ih =>
      have hnew : entry.1 ∉ attributes.names := fun hmem =>
        (List.nodup_append.1 h).2.2 entry.1 hmem entry.1 (by simp) rfl
      have hinsert := entries_insert_of_not_mem hnew entry.2
      have hnames : (attributes.insert entry.1 entry.2).names = attributes.names ++ [entry.1] := by
        simp [names, hinsert]
      rw [List.foldl_cons, ih _ (by simpa [hnames] using h), hinsert]
      simp

/-- Entries with different names are kept as they are. -/
theorem entries_ofList {entries : List (String × String)} (h : (entries.map Prod.fst).Nodup)
    : (ofList entries).entries = entries :=
  entries_foldl_insert empty entries h

end Attributes

end StoryAtlas
