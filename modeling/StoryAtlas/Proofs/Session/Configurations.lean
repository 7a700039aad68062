import StoryAtlas.Proofs.Session.Observation
import StoryAtlas.Proofs.Settings.Profiles
import StoryAtlas.Proofs.Story.Building

/-! The configuration of a run.
The places where a configuration file may stand come in a fixed order, and the settings are those
that the text of the first such file gives.  They have a usable pattern, so that with them every
document has a graph.
-/

namespace StoryAtlas.Session

variable {files : Files} {systemPath explicit : Option String}

-----------------------------------------------------------------------------------------
-- The file that counts
-----------------------------------------------------------------------------------------

/-- The path of the configuration file of a run, if there is one: the path that is named, whatever
stands there, or else that of the working directory or that of the system, as far as they lead to
files.
-/
inductive Files.ConfigPath (files : Files) (systemPath : Option String)
    : Option String → Option String → Prop
  | explicit (path : String) : files.ConfigPath systemPath (some path) (some path)
  | workingDirectory (found : files.isFile "plotgraph/config.toml" = true)
    : files.ConfigPath systemPath none (some "plotgraph/config.toml")
  | system {path : String} (missing : files.isFile "plotgraph/config.toml" = false)
    (known : systemPath = some path) (found : files.isFile path = true)
    : files.ConfigPath systemPath none (some path)
  | absent (missing : files.isFile "plotgraph/config.toml" = false)
    (unknown : ∀ path, systemPath = some path → files.isFile path = false)
    : files.ConfigPath systemPath none none

/-- The configuration file that a run finds is the one that counts. -/
theorem Files.configPath_iff {path? : Option String}
    : files.ConfigPath systemPath explicit path?
      ↔ (files.configFile? systemPath explicit).map ConfigFile.path = path? := by
  unfold configFile?
  constructor
  · intro h
    cases h with
    | explicit path => rfl
    | workingDirectory found =>
        dsimp only
        rw [localConfigPath, if_pos found]
        rfl
    | system missing known found =>
        dsimp only
        rw [localConfigPath, missing, known, Option.filter_some, if_pos found]
        rfl
    | absent missing unknown =>
        dsimp only
        rw [localConfigPath, missing]
        cases systemPath with
        | none => rfl
        | some path =>
            rw [Option.filter_some, unknown path rfl]
            rfl
  · rintro rfl
    cases explicit with
    | some path => exact .explicit path
    | none =>
        dsimp only
        cases hlocal : files.isFile localConfigPath with
        | true => exact .workingDirectory hlocal
        | false =>
            cases systemPath with
            | none => exact .absent hlocal (fun _ h => nomatch h)
            | some path =>
                rw [Option.filter_some]
                cases hsystem : files.isFile path with
                | true => exact .system hlocal rfl hsystem
                | false => exact .absent hlocal (fun other h => Option.some.inj h ▸ hsystem)

-----------------------------------------------------------------------------------------
-- The settings in it
-----------------------------------------------------------------------------------------

/-- The settings that a run loads: the defaults without a configuration file, and otherwise those
that its text describes, if their pattern is usable.
-/
inductive Files.Configures (files : Files) (systemPath explicit : Option String)
    : Settings → Prop
  | byDefault (absent : files.ConfigPath systemPath explicit none)
    : files.Configures systemPath explicit {}
  | byFile {path text : String} {value : Settings.Value} {settings : Settings}
    {pattern : Pattern} (chosen : files.ConfigPath systemPath explicit (some path))
    (found : files.isFile path = true) (holds : files.readText path = .ok text)
    (isToml : Toml.read text = .ok value) (fits : Settings.ofValue? value = some settings)
    (usable : settings.conventions.pattern = .ok pattern)
    : files.Configures systemPath explicit settings

/-- The settings in the text of a configuration file are those that it describes. -/
theorem settingsOfFile_eq_ok_iff {path text : String} {settings : Settings}
    : settingsOfFile path text = .ok settings
      ↔ ∃ value pattern,
          Toml.read text = .ok value
          ∧ Settings.ofValue? value = some settings
          ∧ settings.conventions.pattern = .ok pattern := by
  constructor
  · intro h
    unfold settingsOfFile at h
    split at h
    · cases h
    · next found htoml =>
        split at h
        · cases h
        · next pattern hpattern =>
            cases h
            obtain ⟨value, hread, hvalue⟩ := Settings.ofToml_eq_ok_iff.1 htoml
            exact ⟨value, pattern, hread, hvalue, hpattern⟩
  · rintro ⟨value, pattern, hread, hvalue, hpattern⟩
    rw [settingsOfFile, Settings.ofToml_eq_ok_iff.2 ⟨value, hread, hvalue⟩]
    dsimp only
    rw [hpattern]

/-- The settings at a path are those in the text of the file there. -/
theorem Files.settingsAt_eq_ok_iff {path : String} {settings : Settings}
    : files.settingsAt path = .ok settings
      ↔ files.isFile path = true
        ∧ ∃ text, files.readText path = .ok text ∧ settingsOfFile path text = .ok settings := by
  unfold settingsAt
  constructor
  · intro h
    split at h
    · next hfile =>
        obtain ⟨text, htext, hsettings⟩ := exists_of_bind_eq_ok h
        exact ⟨hfile, text, mapError_eq_ok_iff.1 htext, mapError_eq_ok_iff.1 hsettings⟩
    · cases h
  · rintro ⟨hfile, text, htext, hsettings⟩
    have hneed : files.needText path = .ok text := mapError_eq_ok_iff.2 htext
    rw [if_pos hfile, hneed]
    exact mapError_eq_ok_iff.2 hsettings

/-- A run loads the settings of its configuration. -/
theorem Files.configures_iff {settings : Settings}
    : files.Configures systemPath explicit settings
      ↔ files.settings systemPath explicit = .ok settings := by
  unfold Files.settings
  constructor
  · intro h
    cases h with
    | byDefault absent =>
        rw [configPath_iff, Option.map_eq_none_iff] at absent
        rw [absent]
    | byFile chosen found holds isToml fits usable =>
        rw [configPath_iff, Option.map_eq_some_iff] at chosen
        obtain ⟨file, hfile, rfl⟩ := chosen
        rw [hfile]
        exact settingsAt_eq_ok_iff.2
          ⟨found, _, holds, settingsOfFile_eq_ok_iff.2 ⟨_, _, isToml, fits, usable⟩⟩
  · intro h
    cases hfile : files.configFile? systemPath explicit with
    | none =>
        rw [hfile] at h
        cases h
        exact .byDefault (configPath_iff.2 (congrArg _ hfile))
    | some file =>
        rw [hfile] at h
        obtain ⟨found, text, holds, hsettings⟩ := settingsAt_eq_ok_iff.1 h
        obtain ⟨value, pattern, isToml, fits, usable⟩ := settingsOfFile_eq_ok_iff.1 hsettings
        exact .byFile (configPath_iff.2 (congrArg _ hfile)) found holds isToml fits usable

/-- With a configuration file that is there, a run loads what its text gives. -/
theorem Files.configures_iff_of_file {path text : String}
    (chosen : files.ConfigPath systemPath explicit (some path))
    (found : files.isFile path = true) (holds : files.readText path = .ok text)
    (settings : Settings)
    : files.Configures systemPath explicit settings
      ↔ settingsOfFile path text = .ok settings := by
  rw [configPath_iff, Option.map_eq_some_iff] at chosen
  obtain ⟨file, hfile, rfl⟩ := chosen
  rw [configures_iff, Files.settings, hfile]
  dsimp only
  rw [settingsAt_eq_ok_iff]
  constructor
  · rintro ⟨-, other, hother, hsettings⟩
    obtain rfl : text = other := Except.ok.inj (holds.symm.trans hother)
    exact hsettings
  · exact fun hsettings => ⟨found, text, holds, hsettings⟩

/-- A configuration file in which a profile is written gives the settings of the profile, if their
pattern is usable, and no others.
-/
theorem Files.configures_iff_of_profile {path : String} {manuscript : Toml.Manuscript}
    {profile : Settings.Profile} (chosen : files.ConfigPath systemPath explicit (some path))
    (found : files.isFile path = true) (holds : files.readText path = .ok manuscript.text)
    (written : profile.WrittenIn manuscript) (settings : Settings)
    : files.Configures systemPath explicit settings
      ↔ settings = profile.settings
        ∧ ∃ pattern, profile.settings.conventions.pattern = .ok pattern := by
  rw [configures_iff_of_file chosen found holds, settingsOfFile_eq_ok_iff, Toml.read_text]
  constructor
  · rintro ⟨value, pattern, hvalue, hsettings, hpattern⟩
    obtain rfl : .table manuscript.entries = value := Except.ok.inj hvalue
    rw [Settings.ofValue?_of_writtenIn written, Option.some.injEq] at hsettings
    exact ⟨hsettings.symm, pattern, hsettings ▸ hpattern⟩
  · rintro ⟨rfl, pattern, hpattern⟩
    exact ⟨_, pattern, rfl, Settings.ofValue?_of_writtenIn written, hpattern⟩

-----------------------------------------------------------------------------------------
-- Graphs
-----------------------------------------------------------------------------------------

/-- Loaded settings have a usable pattern, wherever they were found. -/
theorem Files.Configures.exists_pattern {settings : Settings}
    (h : files.Configures systemPath explicit settings)
    : ∃ pattern, settings.conventions.pattern = .ok pattern := by
  cases h with
  | byDefault => exact Conventions.pattern_standard
  | byFile _ _ _ _ _ usable => exact ⟨_, usable⟩

end StoryAtlas.Session
