import StoryAtlas.Failure
import StoryAtlas.Text.Blank

/-! Trees of files.
A tree maps places, which are lists of names from the top, to what stands there, and has a
working directory in which relative paths begin.  A path leads to a place only through
directories.
-/

namespace StoryAtlas.Session

open StoryAtlas.Text

/-- The names from the top of a tree to a place in it. -/
abbrev Place := List String

/-- What stands at a place. -/
inductive Entry
  | directory
  | file (content : ByteArray)

/-- A tree of files with a working directory. -/
structure Files where
  entries : List (Place × Entry)
  workingDirectory : Place

namespace Files

/-- What stands at a place; the top is always a directory. -/
def entry? (files : Files) (place : Place) : Option Entry :=
  if place = [] then some .directory else files.entries.lookup place

/-- Puts something at a place. -/
def put (files : Files) (place : Place) (entry : Entry) : Files :=
  { files with entries := (place, entry) :: files.entries.filter fun other => other.1 ≠ place }

/-- Makes the directories with the names, one below the other from a place on, as far as nothing
stands there. -/
def makeDirectories (files : Files) (place : Place) : List String → Files
  | [] => files
  | name :: rest =>
      let below := place ++ [name]
      let made := if (files.entry? below).isSome then files else files.put below .directory
      made.makeDirectories below rest

/-- The tree that holds only its working directory. -/
def new (workingDirectory : Place) : Files :=
  makeDirectories ⟨[], workingDirectory⟩ [] workingDirectory

/-- The names between the slashes of a path. -/
def names (path : String) : List String :=
  (path.toList.splitOn '/').map String.ofList

/-- The number of bytes a name may have. -/
def maxNameLength : Nat := 255

/-- The number of bytes a path may have. -/
def maxPathLength : Nat := 4095

/-- Goes from a place along names.  An empty name or a single dot stays, two dots go up. -/
def walk (files : Files) : Place → List String → Except FileFault Place
  | place, [] => .ok place
  | place, name :: rest =>
      match files.entry? place with
      | none => .error .notFound
      | some (.file _) => .error .notDirectory
      | some .directory =>
          if name = "" ∨ name = "." then files.walk place rest
          else if name = ".." then files.walk place.dropLast rest
          else if maxNameLength < name.utf8ByteSize then .error .nameTooLong
          else files.walk (place ++ [name]) rest

/-- The place a path leads to.  Something need not stand there, but in the directory above. -/
def locate (files : Files) (path : String) : Except FileFault Place :=
  let chars := path.toList
  if chars.contains '\x00' then .error .nulInName
  else if chars.isEmpty then .error .notFound
  else if maxPathLength < path.utf8ByteSize then .error .nameTooLong
  else files.walk (if chars.head? = some '/' then [] else files.workingDirectory) (names path)

/-- What a path leads to. -/
def find? (files : Files) (path : String) : Option Entry :=
  match files.locate path with
  | .ok place => files.entry? place
  | .error _ => none

/-- Whether a path leads to something. -/
def pathExists (files : Files) (path : String) : Bool :=
  (files.find? path).isSome

/-- Whether a path leads to a file. -/
def isFile (files : Files) (path : String) : Bool :=
  match files.find? path with
  | some (.file _) => true
  | _ => false

/-- The content of the file a path leads to. -/
def read (files : Files) (path : String) : Except FileFault ByteArray := do
  match files.entry? (← files.locate path) with
  | none => .error .notFound
  | some .directory => .error .isDirectory
  | some (.file content) => .ok content

/-- The path without the slashes at its end, unless there is nothing else. -/
def withoutFinalSlashes (path : String) : String :=
  let chars := dropEndWhile (· == '/') path.toList
  if chars.isEmpty then "/" else String.ofList chars

/-- The place at which a path lets a file be written.  A path that ends in a slash names a
directory, whatever stands there. -/
def locateFile (files : Files) (path : String) : Except FileFault Place := do
  if path.toList.getLast? = some '/' then
    let _ ← files.locate (withoutFinalSlashes path)
    .error .isDirectory
  else
    let place ← files.locate path
    match files.entry? place with
    | some .directory => .error .isDirectory
    | _ => .ok place

/-- Writes a text to the file a path leads to, which is made if nothing stands there. -/
def write (files : Files) (path text : String) : Except FileFault Files :=
  (files.locateFile path).map fun place => files.put place (.file text.toUTF8)

/-- Puts something where a path leads, with the directories above it. -/
def create (files : Files) (path : String) (entry : Entry) : Files :=
  let place :=
    files.workingDirectory ++ (names path).filter fun name => name ≠ "" ∧ name ≠ "."
  (files.makeDirectories [] place.dropLast).put place entry

/-- The path of a place below the working directory. -/
def pathOf? (files : Files) (place : Place) : Option String :=
  (dropDirectory files.workingDirectory place).map ("/".intercalate ·)
where
  /-- The names behind those of a directory. -/
  dropDirectory : Place → Place → Option Place
    | [], place => some place
    | _ :: _, [] => none
    | name :: directory, other :: place =>
        if name = other then dropDirectory directory place else none

/-- Whether a file with the content stands at a place. -/
def holds (files : Files) (place : Place) (content : ByteArray) : Bool :=
  match files.entry? place with
  | some (.file other) => other.data == content.data
  | _ => false

/-- The files below the working directory that were not there before, or not so, in the order of
their paths. -/
def changes (before after : Files) : List (String × ByteArray) :=
  let changed := after.entries.filterMap fun (place, entry) =>
    match entry with
    | .directory => none
    | .file content =>
        if before.holds place content then none
        else (after.pathOf? place).map fun path => (path, content)
  changed.mergeSort fun left right => left.1 ≤ right.1

end Files

end StoryAtlas.Session
