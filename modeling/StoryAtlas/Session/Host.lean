import StoryAtlas.Journal
import StoryAtlas.Session.Files

/-! Where a run takes place.
A host gives access to files by their paths and keeps the records of the run.  A workspace is a
host that is a value: a tree of files and the records noted so far.
-/

namespace StoryAtlas.Session

/-- What a run needs of the place where it runs. -/
class Host (m : Type → Type) where
  pathExists (path : String) : m Bool
  isFile (path : String) : m Bool
  readText (path : String) : m (Except FileFault String)
  writeText (path text : String) : m (Except FileFault Unit)
  note (record : Record) : m Unit

/-- The text of the file a path leads to. -/
def Files.readText (files : Files) (path : String) : Except FileFault String := do
  match String.fromUTF8? (← files.read path) with
  | some text => .ok text
  | none => .error .notUtf8

/-- A tree of files, and the records of what was done with it, in order. -/
structure Workspace where
  files : Files
  journal : Array Record := #[]

instance : Host (StateM Workspace) where
  pathExists path := do return (← get).files.pathExists path
  isFile path := do return (← get).files.isFile path
  readText path := do return (← get).files.readText path
  writeText path text := do
    let workspace ← get
    match workspace.files.write path text with
    | .ok files =>
        set { workspace with files }
        return .ok ()
    | .error fault => return .error fault
  note record := modify fun workspace =>
    { workspace with journal := workspace.journal.push record }

end StoryAtlas.Session
