import Mathlib.Data.List.Basic
import StoryAtlas.Proofs.FirstOfEach
import StoryAtlas.Proofs.Outcome
import StoryAtlas.Session.Files

/-! Places in a tree of files when a file is written.
Paths lead through directories only, so that they lead to the same places in trees with the same
directories.  A written file is all that changes in a tree, and no directory stood at its place.
-/

namespace StoryAtlas.Session.Files

-----------------------------------------------------------------------------------------
-- What stands at a place
-----------------------------------------------------------------------------------------

variable {files : Files} {place : Place} {content : ByteArray}

theorem entry_top (files : Files) : files.entry? [] = some .directory :=
  if_pos rfl

/-- What was put at a place stands there, and nothing else has changed. -/
theorem entry_put (hplace : place ≠ []) (entry : Entry) (other : Place)
    : Files.entry? (files.put place entry) other
      = if other = place then some entry else files.entry? other := by
  unfold entry? put
  by_cases htop : other = []
  · have hother : other ≠ place := fun heq => hplace (heq.symm.trans htop)
    rw [if_pos htop, if_pos htop, if_neg hother]
  · rw [if_neg htop, if_neg htop, List.lookup_cons]
    by_cases heq : other = place
    · simp [heq]
    · rw [beq_false_of_ne heq, if_neg heq]
      exact lookup_filter_ne heq files.entries

/-- A place at which a file can be written. -/
def Writable (files : Files) (place : Place) : Prop :=
  files.entry? place ≠ some .directory

theorem Writable.ne_top (h : files.Writable place) : place ≠ [] := by
  rintro rfl
  exact h files.entry_top

/-- Two trees with the same directories, whatever files there are. -/
structure SameDirectories (files other : Files) : Prop where
  workingDirectory : other.workingDirectory = files.workingDirectory
  directory_iff place
    : other.entry? place = some .directory ↔ files.entry? place = some .directory

namespace SameDirectories

variable {other : Files}

theorem symm (h : files.SameDirectories other) : other.SameDirectories files where
  workingDirectory := h.workingDirectory.symm
  directory_iff place := (h.directory_iff place).symm

theorem trans {third : Files} (h : files.SameDirectories other)
    (hthird : other.SameDirectories third)
    : files.SameDirectories third where
  workingDirectory := hthird.workingDirectory.trans h.workingDirectory
  directory_iff place := (hthird.directory_iff place).trans (h.directory_iff place)

theorem writable_iff (h : files.SameDirectories other)
    : other.Writable place ↔ files.Writable place :=
  not_congr (h.directory_iff place)

/-- Files put at one place leave trees with the same directories. -/
theorem put (h : files.SameDirectories other) (hplace : files.Writable place)
    (content otherContent : ByteArray)
    : (files.put place (.file content)).SameDirectories
        (other.put place (.file otherContent)) where
  workingDirectory := h.workingDirectory
  directory_iff target := by
    rw [entry_put hplace.ne_top, entry_put hplace.ne_top]
    by_cases heq : target = place
    · simp [heq]
    · rw [if_neg heq, if_neg heq]
      exact h.directory_iff target

end SameDirectories

/-- A file that is written leaves the directories as they are. -/
theorem sameDirectories_put (h : files.Writable place) (content : ByteArray)
    : files.SameDirectories (files.put place (.file content)) where
  workingDirectory := rfl
  directory_iff target := by
    rw [entry_put h.ne_top]
    by_cases heq : target = place
    · subst heq
      rw [if_pos rfl]
      exact iff_of_false (fun hfile => nomatch hfile) h
    · rw [if_neg heq]

-----------------------------------------------------------------------------------------
-- Paths
-----------------------------------------------------------------------------------------

theorem walk_cons_eq_ok_iff {start target : Place} {name : String} {rest : List String}
    : files.walk start (name :: rest) = .ok target
      ↔ files.entry? start = some .directory
        ∧ (if name = "" ∨ name = "." then files.walk start rest
            else if name = ".." then files.walk start.dropLast rest
            else if maxNameLength < name.utf8ByteSize then .error .nameTooLong
            else files.walk (start ++ [name]) rest)
          = .ok target := by
  rw [walk]
  cases files.entry? start with
  | none => simp
  | some entry => cases entry <;> simp

namespace SameDirectories

variable {other : Files}

/-- A walk leads to the same place in both trees, by induction on the names. -/
theorem walk_iff (h : files.SameDirectories other) {start target : Place}
    {names : List String}
    : other.walk start names = .ok target ↔ files.walk start names = .ok target := by
  induction names generalizing start with
  | nil => exact Iff.rfl
  | cons name rest ih =>
      rw [walk_cons_eq_ok_iff, walk_cons_eq_ok_iff]
      refine and_congr (h.directory_iff start) ?_
      split
      · exact ih
      · split
        · exact ih
        · split
          · exact Iff.rfl
          · exact ih

theorem locate_iff (h : files.SameDirectories other) {path : String} {target : Place}
    : other.locate path = .ok target ↔ files.locate path = .ok target := by
  unfold locate
  rw [h.workingDirectory]
  dsimp only
  split
  · exact Iff.rfl
  · split
    · exact Iff.rfl
    · split
      · exact Iff.rfl
      · exact h.walk_iff

end SameDirectories

/-- A text can be written to a path that leads to where a file can be written, unless the path
ends as one of a directory.  It is then all that is put into the tree.
-/
theorem write_eq_ok_iff {path text : String} {written : Files}
    : files.write path text = .ok written
      ↔ path.toList.getLast? ≠ some '/'
        ∧ ∃ place,
            files.locate path = .ok place
            ∧ files.Writable place
            ∧ written = files.put place (.file text.toUTF8) := by
  constructor
  · intro h
    obtain ⟨place, hfile, hwritten⟩
        : ∃ place,
            files.locateFile path = .ok place
            ∧ files.put place (.file text.toUTF8) = written := by
      unfold write at h
      cases hfile : files.locateFile path with
      | error fault => rw [hfile] at h; cases h
      | ok place => rw [hfile] at h; exact ⟨place, rfl, Except.ok.inj h⟩
    unfold locateFile at hfile
    split at hfile
    · obtain ⟨_, -, hdirectory⟩ := exists_of_bind_eq_ok hfile
      cases hdirectory
    · rename_i hslash
      obtain ⟨target, hlocate, hentry⟩ := exists_of_bind_eq_ok hfile
      split at hentry
      · cases hentry
      · rename_i hnot
        cases hentry
        exact ⟨hslash, place, hlocate, hnot, hwritten.symm⟩
  · rintro ⟨hslash, place, hlocate, hplace, rfl⟩
    have hfile : files.locateFile path = .ok place := by
      rw [locateFile, if_neg hslash, hlocate]
      dsimp only [bind, Except.bind]
      split
      · rename_i hdirectory
        exact absurd hdirectory hplace
      · rfl
    rw [write, hfile]
    rfl

/-- A text that can be written in a tree can be written in another one with the same
directories.
-/
theorem SameDirectories.exists_write {other : Files} {path text : String} {written : Files}
    (h : files.SameDirectories other) (hwrite : files.write path text = .ok written)
    : ∃ otherWritten,
        other.write path text = .ok otherWritten ∧ written.SameDirectories otherWritten := by
  obtain ⟨hslash, place, hlocate, hplace, rfl⟩ := write_eq_ok_iff.mp hwrite
  exact ⟨_,
    write_eq_ok_iff.mpr
      ⟨hslash, place, h.locate_iff.mpr hlocate, h.writable_iff.mpr hplace, rfl⟩,
    h.put hplace _ _⟩

end StoryAtlas.Session.Files
