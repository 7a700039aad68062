import StoryAtlas.Settings.Value
import StoryAtlas.Toml.Fault

/-! Tables under construction.
A table knows how it came to be, which decides how it may be added to: one that was only passed
on the way to another may still get a header, one made by dotted keys only more dotted keys, and
a value is never added to.
-/

namespace StoryAtlas.Toml

open StoryAtlas.Settings

/-- How a table came to be. -/
inductive Origin
  /-- By a header of its own. -/
  | header
  /-- On the way of a header to a table inside. -/
  | passed
  /-- On the way of a dotted key. -/
  | dotted
deriving DecidableEq

/-- What a key leads to while a document is read. -/
inductive Item
  | value (content : Value)
  | table (origin : Origin) (entries : List (String × Item))
  /-- Tables under one key, the last of which is added to. -/
  | tables (elements : List (List (String × Item)))

/-- Keys with what they lead to. -/
abbrev Entries := List (String × Item)

namespace Entries

/-- Puts an item in the place of a key, or at the end. -/
def put (key : String) (item : Item) : Entries → Entries
  | [] => [(key, item)]
  | (other, old) :: rest =>
      if other = key then (key, item) :: rest else (other, old) :: put key item rest

/-- Changes the last of several tables. -/
def updateLast (change : Entries → Except Fault Entries)
    : List Entries → Except Fault (List Entries)
  | [] => .error .notATable
  | [last] => (change last).map fun last => [last]
  | first :: rest => (updateLast change rest).map (first :: ·)

/-- Changes the table a path leads to, given the origin of the table it starts at.  Tables that
the path lacks are made on the way. -/
def updateAt (byDots : Bool) (change : Origin → Entries → Except Fault Entries)
    : List String → Origin → Entries → Except Fault Entries
  | [], origin, entries => change origin entries
  | key :: path, _, entries =>
      match entries.lookup key with
      | none => do
          let origin := if byDots then .dotted else .passed
          let inner ← updateAt byDots change path origin []
          .ok (entries.put key (.table origin inner))
      | some (.value _) => .error .notATable
      | some (.tables elements) => do
          let elements ← updateLast (updateAt byDots change path .header) elements
          .ok (entries.put key (.tables elements))
      | some (.table origin inner) =>
          if byDots ∧ origin = .header then .error .duplicateKey
          else do
            let inner ← updateAt byDots change path origin inner
            .ok (entries.put key (.table origin inner))

/-- Adds a value under a dotted key to a table. -/
def addValue (path : List String) (key : String) (content : Value) (origin : Origin)
    (entries : Entries)
    : Except Fault Entries :=
  updateAt true
    (fun inner entries =>
      if (inner = .dotted) = path.isEmpty then .error .duplicateKey
      else if (entries.lookup key).isSome then .error .duplicateKey
      else .ok (entries.put key (.value content)))
    path origin entries

/-- Opens the table of a header, given the path to it and its last key. -/
def openTable (path : List String) (key : String) (root : Entries) : Except Fault Entries :=
  updateAt false
    (fun _ entries =>
      match entries.lookup key with
      | none => .ok (entries.put key (.table .header []))
      | some (.table .passed inner) => .ok (entries.put key (.table .header inner))
      | some _ => .error .duplicateKey)
    path .header root

/-- Opens the next of several tables under one key. -/
def openElement (path : List String) (key : String) (root : Entries) : Except Fault Entries :=
  updateAt false
    (fun _ entries =>
      match entries.lookup key with
      | none => .ok (entries.put key (.tables [[]]))
      | some (.tables elements) => .ok (entries.put key (.tables (elements ++ [[]])))
      | some _ => .error .duplicateKey)
    path .header root

end Entries

mutual

/-- The value of an item when the document is complete. -/
def Item.toValue : Item → Value
  | .value content => content
  | .table _ entries => .table (valuesOfEntries entries)
  | .tables elements => .list (valuesOfTables elements)

/-- The values of entries under their keys. -/
def valuesOfEntries : List (String × Item) → List (String × Value)
  | [] => []
  | (key, item) :: rest => (key, item.toValue) :: valuesOfEntries rest

/-- The values of tables. -/
def valuesOfTables : List (List (String × Item)) → List Value
  | [] => []
  | entries :: rest => .table (valuesOfEntries entries) :: valuesOfTables rest

end

end StoryAtlas.Toml
