import StoryAtlas.Proofs.Session.Observation
import StoryAtlas.Proofs.Session.Places
import StoryAtlas.Proofs.Story.Building

/-! What a run has written when it ends.
A delivery that fails has written the texts in front of the one at which it fails.  A run writes
two texts at most, so that it fails with something written exactly when the page could be written
and the description could not.
-/

namespace StoryAtlas.Session

-----------------------------------------------------------------------------------------
-- Deliveries
-----------------------------------------------------------------------------------------

namespace Files

variable {files after other : Files} {output : Output} {rest outputs : List Output}
  {failure : Failure}

/-- What stands anywhere in a tree stands there in the other one. -/
def SameEntries (files other : Files) : Prop :=
  ∀ place, other.entry? place = files.entry? place

theorem deliver_cons_of_ok {written : Files}
    (h : files.write output.path output.text = .ok written)
    : files.deliver (output :: rest) = written.deliver rest := by
  rw [deliver, h]

theorem deliver_cons_of_error {fault : FileFault}
    (h : files.write output.path output.text = .error fault)
    : files.deliver (output :: rest) = (.error (.file fault), files) := by
  rw [deliver, h]

theorem SameEntries.refl (files : Files) : files.SameEntries files :=
  fun _ => rfl

/-- A delivery that fails has delivered the texts in front of one that cannot be written. -/
theorem exists_of_deliver_eq_error (h : files.deliver outputs = (.error failure, after))
    : ∃ done output rest fault,
        outputs = done ++ output :: rest
        ∧ files.deliver done = (.ok (), after)
        ∧ after.write output.path output.text = .error fault
        ∧ failure = .file fault := by
  induction outputs generalizing files with
  | nil => cases h
  | cons output rest ih =>
      cases hwrite : files.write output.path output.text with
      | error fault =>
          rw [deliver_cons_of_error hwrite] at h
          cases h
          exact ⟨[], output, rest, fault, rfl, rfl, hwrite, rfl⟩
      | ok written =>
          rw [deliver_cons_of_ok hwrite] at h
          obtain ⟨done, last, others, fault, hrest, hdone, hfault, hfailure⟩ := ih h
          refine ⟨output :: done, last, others, fault, by rw [hrest]; rfl, ?_, hfault, hfailure⟩
          rw [deliver_cons_of_ok hwrite, hdone]

/-- A delivery that succeeds has written its first text and delivered the others after it. -/
theorem exists_of_deliver_cons_eq_ok (h : files.deliver (output :: rest) = (.ok (), after))
    : ∃ written,
        files.write output.path output.text = .ok written
        ∧ written.deliver rest = (.ok (), after) := by
  cases hwrite : files.write output.path output.text with
  | error fault =>
      rw [deliver_cons_of_error hwrite] at h
      cases h
  | ok written =>
      rw [deliver_cons_of_ok hwrite] at h
      exact ⟨written, rfl, h⟩

/-- A delivery leaves the directories as they are, by induction on the texts. -/
theorem sameDirectories_of_deliver (h : files.deliver outputs = (.ok (), after))
    : files.SameDirectories after := by
  induction outputs generalizing files with
  | nil =>
      cases h
      exact ⟨rfl, fun _ => Iff.rfl⟩
  | cons output rest ih =>
      obtain ⟨written, hwrite, hrest⟩ := exists_of_deliver_cons_eq_ok h
      obtain ⟨-, place, -, hplace, rfl⟩ := write_eq_ok_iff.mp hwrite
      exact (sameDirectories_put hplace _).trans (ih hrest)

/-- Every delivered text has a path that leads to a place. -/
theorem exists_place_of_deliver (h : files.deliver outputs = (.ok (), after))
    (hmem : output ∈ outputs)
    : ∃ place, files.locate output.path = .ok place := by
  induction outputs generalizing files with
  | nil => cases hmem
  | cons first rest ih =>
      obtain ⟨written, hwrite, hrest⟩ := exists_of_deliver_cons_eq_ok h
      obtain ⟨-, place, hlocate, hplace, rfl⟩ := write_eq_ok_iff.mp hwrite
      rcases List.mem_cons.mp hmem with rfl | hmem
      · exact ⟨place, hlocate⟩
      · obtain ⟨target, htarget⟩ := ih hrest hmem
        exact ⟨target, (sameDirectories_put hplace _).locate_iff.mp htarget⟩

/-- The last of the texts whose paths lead to a place. -/
def lastText? (files : Files) (outputs : List Output) (place : Place) : Option String :=
  (outputs.reverse.find? fun output => files.locate output.path = .ok place).map Output.text

theorem lastText?_concat_of_eq {path formatName text : String} {place : Place}
    (h : files.locate path = .ok place)
    : files.lastText? (outputs ++ [⟨path, formatName, text⟩]) place = some text := by
  simp [lastText?, h]

theorem lastText?_concat_of_ne {path formatName text : String} {place : Place}
    (h : files.locate path ≠ .ok place)
    : files.lastText? (outputs ++ [⟨path, formatName, text⟩]) place
      = files.lastText? outputs place := by
  simp [lastText?, h]

theorem lastText?_eq_none {place : Place}
    (h : ∀ output ∈ outputs, files.locate output.path ≠ .ok place)
    : files.lastText? outputs place = none := by
  rw [lastText?, Option.map_eq_none_iff, List.find?_eq_none]
  intro output hmem
  simpa using h output (List.mem_reverse.mp hmem)

/-- Behind a delivery the last of the texts for a place stands there, and where no path leads
nothing has changed.
-/
theorem entry_of_deliver (h : files.deliver outputs = (.ok (), after)) (place : Place)
    : after.entry? place
      = match files.lastText? outputs place with
        | some text => some (.file text.toUTF8)
        | none => files.entry? place := by
  induction outputs generalizing files with
  | nil =>
      cases h
      rfl
  | cons output rest ih =>
      obtain ⟨written, hwrite, hrest⟩ := exists_of_deliver_cons_eq_ok h
      obtain ⟨-, target, hlocate, htarget, rfl⟩ := write_eq_ok_iff.mp hwrite
      have hsame := sameDirectories_put htarget output.text.toUTF8
      have hlast
          : (files.put target (.file output.text.toUTF8)).lastText? rest place
            = files.lastText? rest place := by
        unfold lastText?
        simp only [hsame.locate_iff]
      rw [ih hrest, hlast, entry_put htarget.ne_top]
      unfold lastText?
      rw [List.reverse_cons, List.find?_append]
      cases rest.reverse.find? fun output => files.locate output.path = .ok place with
      | some last => rfl
      | none =>
          by_cases heq : place = target
          · simp [heq, hlocate]
          · have hother : target ≠ place := fun h => heq h.symm
            simp [heq, hlocate, hother]

/-- A path that leads to the place of a delivered text reads as the last such text. -/
theorem read_of_deliver {path text : String} {place : Place}
    (h : files.deliver outputs = (.ok (), after)) (hlocate : files.locate path = .ok place)
    (hlast : files.lastText? outputs place = some text)
    : after.read path = .ok text.toUTF8 := by
  have hentry := entry_of_deliver h place
  rw [hlast] at hentry
  have hafter := (sameDirectories_of_deliver h).locate_iff.mpr hlocate
  rw [read, hafter]
  dsimp only [bind, Except.bind]
  rw [hentry]

/-- What can be delivered in a tree can be delivered in another one with the same directories. -/
theorem SameDirectories.deliver (h : files.SameDirectories other)
    (hdelivery : (files.deliver outputs).1 = .ok ())
    : (other.deliver outputs).1 = .ok () := by
  induction outputs generalizing files other with
  | nil => rfl
  | cons output rest ih =>
      obtain ⟨written, hwrite, hrest⟩ := exists_of_deliver_cons_eq_ok (Prod.ext hdelivery rfl)
      obtain ⟨otherWritten, hother, hsame⟩ := h.exists_write hwrite
      rw [deliver_cons_of_ok hother]
      exact ih hsame (congrArg Prod.fst hrest)

end Files

theorem Arguments.length_outputs_le (arguments : Arguments) (settings : RenderSettings)
    (graph : Graph)
    : (arguments.outputs settings graph).length ≤ 2 := by
  unfold Arguments.outputs Arguments.exporters
  rw [List.length_map, List.length_append]
  exact Nat.add_le_add (Option.length_toList_le) (Option.length_toList_le)

section Outputs

variable {files : Files} {systemPath : Option String} {arguments : Arguments}

/-- A run that can load its settings, read its story and build the graph is to write it. -/
theorem Files.outputs_of_graphOf {settings : Settings} {source : String} {graph : Graph}
    (hinput : files.pathExists arguments.input = true)
    (hsettings : files.settings systemPath arguments.config = .ok settings)
    (hsource : files.readText arguments.input = .ok source)
    (hgraph : (arguments.adjust settings).graphOf source = .ok graph)
    : files.outputs systemPath arguments
      = .ok (arguments.outputs (arguments.adjust settings).rendering graph) := by
  have hneed : files.needText arguments.input = .ok source := mapError_eq_ok_iff.mpr hsource
  rw [Files.outputs, if_pos hinput, hsettings, hneed]
  dsimp only [bind, Except.bind]
  rw [hgraph]

/-- A run has texts to write only as the written graph of its story. -/
theorem Files.exists_of_outputs_eq_ok {outputs : List Output}
    (h : files.outputs systemPath arguments = .ok outputs)
    : ∃ settings source graph,
        files.settings systemPath arguments.config = .ok settings
        ∧ files.readText arguments.input = .ok source
        ∧ (arguments.adjust settings).graphOf source = .ok graph
        ∧ outputs = arguments.outputs (arguments.adjust settings).rendering graph := by
  unfold Files.outputs at h
  split at h
  · obtain ⟨settings, hsettings, hsource⟩ := exists_of_bind_eq_ok h
    obtain ⟨source, hneed, hgraph⟩ := exists_of_bind_eq_ok hsource
    obtain ⟨graph, hgraph, houtputs⟩ := exists_of_bind_eq_ok hgraph
    exact ⟨settings, source, graph, hsettings, mapError_eq_ok_iff.mp hneed, hgraph,
      (Except.ok.inj houtputs).symm⟩
  · cases h

/-- A run is to write two texts at most. -/
theorem Files.length_outputs_le {outputs : List Output}
    (h : files.outputs systemPath arguments = .ok outputs)
    : outputs.length ≤ 2 := by
  obtain ⟨settings, source, graph, -, -, -, rfl⟩ := exists_of_outputs_eq_ok h
  exact arguments.length_outputs_le _ _

theorem outcome_run_of_outputs {workspace : Workspace} {outputs : List Output}
    (h : workspace.files.outputs systemPath arguments = .ok outputs)
    : outcome (run systemPath arguments) workspace = workspace.files.deliver outputs :=
  (ends_run systemPath arguments workspace).trans (congrArg workspace.files.finish h)

theorem outcome_run_of_failure {workspace : Workspace} {failure : Failure}
    (h : workspace.files.outputs systemPath arguments = .error failure)
    : outcome (run systemPath arguments) workspace = (.error failure, workspace.files) :=
  (ends_run systemPath arguments workspace).trans (congrArg workspace.files.finish h)

/-- Settings with a usable pattern give every story that is well-formed its graph. -/
theorem exists_graphOf {settings : Settings} {source : String}
    (hpattern : ∃ pattern, settings.conventions.pattern = .ok pattern)
    (hok : (Markup.parse source).isOk = true)
    : ∃ graph, settings.graphOf source = .ok graph := by
  obtain ⟨pattern, hpattern⟩ := hpattern
  obtain ⟨document, hparse⟩ := exists_of_isOk hok
  have hgraph := Settings.buildGraph_of_pattern hpattern document
  rw [Settings.graphOf, hparse]
  dsimp only
  rw [hgraph]
  exact ⟨_, rfl⟩

end Outputs

-----------------------------------------------------------------------------------------
-- Runs that fail with something written
-----------------------------------------------------------------------------------------

/-- A delivery of two texts at most fails with something changed exactly when the first of two
texts has changed something and the second cannot be written after it.
-/
theorem Files.failed_delivery_changes_iff {files : Files} {outputs : List Output}
    (hlength : outputs.length ≤ 2)
    : (∃ failure,
        (files.deliver outputs).1 = .error failure
        ∧ ¬ files.SameEntries (files.deliver outputs).2)
      ↔ ∃ first second written fault,
          outputs = [first, second]
          ∧ files.write first.path first.text = .ok written
          ∧ ¬ files.SameEntries written
          ∧ written.write second.path second.text = .error fault := by
  constructor
  · rcases hdelivery : files.deliver outputs with ⟨result, after⟩
    rintro ⟨failure, rfl, hchanged⟩
    obtain ⟨done, second, rest, fault, rfl, hdone, hfault, rfl⟩ :=
      exists_of_deliver_eq_error hdelivery
    rw [List.length_append, List.length_cons] at hlength
    cases done with
    | nil =>
        cases hdone
        exact absurd (.refl files) hchanged
    | cons first others =>
        rw [List.length_cons] at hlength
        obtain rfl : others = [] := List.eq_nil_of_length_eq_zero (by omega)
        obtain rfl : rest = [] := List.eq_nil_of_length_eq_zero (by omega)
        cases hwrite : files.write first.path first.text with
        | error fault =>
            rw [deliver_cons_of_error hwrite] at hdone
            cases hdone
        | ok written =>
            rw [deliver_cons_of_ok hwrite] at hdone
            obtain rfl : written = after := congrArg Prod.snd hdone
            exact ⟨first, second, written, fault, rfl, hwrite, hchanged, hfault⟩
  · rintro ⟨first, second, written, fault, rfl, hwrite, hchanged, hfault⟩
    rw [deliver_cons_of_ok hwrite, deliver_cons_of_error hfault]
    exact ⟨.file fault, rfl, hchanged⟩

/-- A working directory with a story. -/
def storyFiles : Files :=
  (Files.new ["home", "story"]).create "s.xml" (.file "<a/>".toUTF8)

/-- The same with a directory named like a description of the graph. -/
def blockedFiles : Files :=
  storyFiles.create "graph.dot" .directory

/-- Asks for the page and for the description. -/
def storyArguments : Arguments :=
  { input := "s.xml", page := some "g.html", description := some "graph.dot" }

/-- A run fails with something changed among the files exactly when the page has changed
something and the description cannot be written after it.  Every other failure leaves all files
as they were.
-/
theorem failed_run_changes_files_iff (systemPath : Option String) (arguments : Arguments)
    (workspace : Workspace)
    : (∃ failure,
        (outcome (run systemPath arguments) workspace).1 = .error failure
        ∧ ¬ workspace.files.SameEntries (outcome (run systemPath arguments) workspace).2)
      ↔ ∃ page description written fault,
          workspace.files.outputs systemPath arguments = .ok [page, description]
          ∧ workspace.files.write page.path page.text = .ok written
          ∧ ¬ workspace.files.SameEntries written
          ∧ written.write description.path description.text = .error fault := by
  cases houtputs : workspace.files.outputs systemPath arguments with
  | error failure =>
      rw [outcome_run_of_failure houtputs]
      constructor
      · rintro ⟨_, -, hchanged⟩
        exact absurd (.refl _) hchanged
      · rintro ⟨_, _, _, _, hnone, -⟩
        cases hnone
  | ok outputs =>
      rw [outcome_run_of_outputs houtputs]
      simpa only [Except.ok.injEq]
        using Files.failed_delivery_changes_iff (Files.length_outputs_le houtputs)

/-- A run whose description cannot be written fails and leaves the page. -/
theorem not_forall_failed_run_keeps_files
    : ¬ ∀ systemPath arguments workspace failure,
        (outcome (run systemPath arguments) workspace).1 = .error failure
        → workspace.files.SameEntries (outcome (run systemPath arguments) workspace).2 := by
  intro hkeeps
  obtain ⟨graph, hgraph⟩ : ∃ graph, ({} : Settings).graphOf "<a/>" = .ok graph :=
    exists_graphOf Conventions.pattern_standard (by decide +kernel)
  have hsettings
      : blockedFiles.settings (some "xdg/plotgraph/config.toml") storyArguments.config
        = .ok {} :=
    rfl
  have hsource : blockedFiles.readText storyArguments.input = .ok "<a/>" := by
    decide +kernel
  have houtputs := Files.outputs_of_graphOf rfl hsettings hsource hgraph
  have hpage (text : String)
      : blockedFiles.write "g.html" text
        = .ok (blockedFiles.put ["home", "story", "g.html"] (.file text.toUTF8)) :=
    rfl
  have hdescription (content : ByteArray) (text : String)
      : (blockedFiles.put ["home", "story", "g.html"] (.file content)).write "graph.dot" text
        = .error .isDirectory :=
    rfl
  -- The texts stay as they are: only the paths decide how the delivery goes.
  obtain ⟨content, hdelivery⟩
      : ∃ content,
          blockedFiles.deliver
            (storyArguments.outputs (storyArguments.adjust {}).rendering graph)
          = (.error (.file .isDirectory),
              blockedFiles.put ["home", "story", "g.html"] (.file content)) :=
    ⟨_, (Files.deliver_cons_of_ok (hpage _)).trans
      (Files.deliver_cons_of_error (hdescription _ _))⟩
  have hrun
      : outcome (run (some "xdg/plotgraph/config.toml") storyArguments)
          { files := blockedFiles }
        = (.error (.file .isDirectory),
            blockedFiles.put ["home", "story", "g.html"] (.file content)) :=
    (outcome_run_of_outputs houtputs).trans hdelivery
  have hkept := hkeeps _ _ _ _ (congrArg Prod.fst hrun)
  rw [hrun] at hkept
  exact Option.some_ne_none _ (hkept ["home", "story", "g.html"])

end StoryAtlas.Session
