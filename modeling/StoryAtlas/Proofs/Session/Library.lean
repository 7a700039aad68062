import StoryAtlas.Proofs.Session.Configurations
import StoryAtlas.Proofs.Session.Delivery

/-! A run does what a builder of the library does.
The builder has the settings of the configuration, but with labels shown if the arguments ask for
them.  Behind the configuration only reading the story and writing can fail.  What is written is
the graph of the story in its written forms, although a run writes by backends and not by the
builder, and files other than the chosen configuration and the story have no say in it.
-/

namespace StoryAtlas.Session

-----------------------------------------------------------------------------------------
-- The settings of a run
-----------------------------------------------------------------------------------------

/-- The settings that a run uses once it has loaded the configured ones: labels are shown if the
arguments ask for them, and nothing else is changed.
-/
structure Arguments.Uses (arguments : Arguments) (configured settings : Settings) : Prop where
  labelled
    : arguments.useLabel = true
      → settings = { configured with rendering := { configured.rendering with display := .label } }
  unchanged : arguments.useLabel = false → settings = configured

theorem Arguments.uses_iff {arguments : Arguments} {configured settings : Settings}
    : arguments.Uses configured settings ↔ settings = arguments.adjust configured := by
  unfold adjust
  constructor
  · intro h
    cases hlabel : arguments.useLabel with
    | true => exact h.labelled hlabel
    | false => exact h.unchanged hlabel
  · rintro rfl
    exact ⟨fun hlabel => if_pos hlabel, fun hlabel => if_neg (Bool.eq_false_iff.1 hlabel)⟩

theorem Arguments.Uses.conventions_eq {arguments : Arguments} {configured settings : Settings}
    (h : arguments.Uses configured settings)
    : settings.conventions = configured.conventions := by
  cases hlabel : arguments.useLabel with
  | true => rw [h.labelled hlabel]
  | false => rw [h.unchanged hlabel]

/-- With loaded settings every document has a graph. -/
theorem Arguments.Uses.exists_build {arguments : Arguments} {configured settings : Settings}
    (h : arguments.Uses configured settings) {files : Files} {systemPath explicit : Option String}
    (hconfigured : files.Configures systemPath explicit configured) (document : Document)
    : ∃ graph, (GraphBuilder.mk settings).build document = .ok graph := by
  obtain ⟨pattern, hpattern⟩ := hconfigured.exists_pattern
  rw [← h.conventions_eq] at hpattern
  exact ⟨_, mapError_eq_ok_iff.2 (Settings.buildGraph_of_pattern hpattern document)⟩

-----------------------------------------------------------------------------------------
-- Backends and the builder
-----------------------------------------------------------------------------------------

/-- The backend for pages writes what the builder writes. -/
theorem GraphBuilder.exportGraph_page (builder : GraphBuilder) (graph : Graph)
    : (Render.Html.Backend.new builder.settings.rendering).exporter.exportGraph graph
      = builder.renderPage graph :=
  rfl

/-- The backend for descriptions writes what the builder writes. -/
theorem GraphBuilder.exportGraph_description (builder : GraphBuilder) (graph : Graph)
    : (Render.Dot.Backend.new builder.settings.rendering).exporter.exportGraph graph
      = builder.renderDescription graph :=
  rfl

/-- The texts of a run are those that the builder writes. -/
theorem Arguments.outputs_eq (arguments : Arguments) (builder : GraphBuilder) (graph : Graph)
    : arguments.outputs builder.settings.rendering graph
      = (arguments.page.map fun path =>
            (⟨path, Render.Html.formatName, builder.renderPage graph⟩ : Output)).toList
          ++ (arguments.description.map fun path =>
            (⟨path, Render.Dot.formatName, builder.renderDescription graph⟩ : Output)).toList := by
  simp only [← GraphBuilder.exportGraph_page, ← GraphBuilder.exportGraph_description]
  unfold outputs exporters
  cases arguments.page <;> cases arguments.description <;> rfl

-----------------------------------------------------------------------------------------
-- The files that count
-----------------------------------------------------------------------------------------

namespace Files

/-- Two trees in which a path leads to the same thing. -/
structure AgreeAt (files other : Files) (path : String) : Prop where
  find : other.find? path = files.find? path
  read : other.read path = files.read path

variable {files other : Files} {path : String} {systemPath otherPath : Option String}

namespace AgreeAt

theorem pathExists (h : files.AgreeAt other path)
    : other.pathExists path = files.pathExists path := by
  rw [Files.pathExists, h.find, Files.pathExists]

theorem isFile (h : files.AgreeAt other path) : other.isFile path = files.isFile path := by
  rw [Files.isFile, h.find, Files.isFile]

theorem needText (h : files.AgreeAt other path) : other.needText path = files.needText path := by
  rw [Files.needText, Files.readText, h.read, Files.needText, Files.readText]

theorem settingsAt (h : files.AgreeAt other path)
    : other.settingsAt path = files.settingsAt path := by
  rw [Files.settingsAt, h.isFile, h.needText, Files.settingsAt]

end AgreeAt

/-- A configuration file that comes before all others: the one that is named, or else the one of
the working directory.
-/
inductive Decides (files : Files) (path : String) : Option String → Prop
  | explicit : Decides files path (some path)
  | workingDirectory (hpath : path = "plotgraph/config.toml")
    (hfile : files.isFile path = true)
    : Decides files path none

/-- The settings only depend on the configuration file that comes before all others. -/
theorem Decides.settings {explicit : Option String} (h : files.Decides path explicit)
    (hagree : files.AgreeAt other path)
    : other.settings otherPath explicit = files.settings systemPath explicit := by
  cases h with
  | explicit => exact hagree.settingsAt
  | workingDirectory hpath hfile =>
      subst hpath
      have hother := hagree.isFile.trans hfile
      unfold Files.settings configFile? localConfigPath
      dsimp only
      rw [if_pos hfile, if_pos hother]
      exact hagree.settingsAt

/-- What a run is to write only depends on its settings and on the story. -/
theorem outputs_congr {arguments : Arguments}
    (hsettings
      : other.settings otherPath arguments.config
        = files.settings systemPath arguments.config)
    (hinput : files.AgreeAt other arguments.input)
    : other.outputs otherPath arguments = files.outputs systemPath arguments := by
  rw [Files.outputs, hinput.pathExists, hsettings, hinput.needText, Files.outputs]

end Files

/-- Two results that are the same, but for the reason why a file could not be written. -/
inductive SameVerdict : Except Failure Unit → Except Failure Unit → Prop
  | refl result : SameVerdict result result
  | unwritten fault otherFault
    : SameVerdict (.error (.file fault)) (.error (.file otherFault))

/-- In trees with the same directories the same plan ends in the same way. -/
theorem Files.SameDirectories.finish {files other : Files} (h : files.SameDirectories other)
    (planned : Except Failure (List Output))
    : SameVerdict (files.finish planned).1 (other.finish planned).1 := by
  cases planned with
  | error failure => exact .refl _
  | ok outputs =>
      rcases hfiles : files.deliver outputs with ⟨result, after⟩
      rcases hother : other.deliver outputs with ⟨otherResult, otherAfter⟩
      rw [Files.finish, Files.finish, hfiles, hother]
      cases result with
      | ok =>
          have hdelivered := h.deliver (congrArg Prod.fst hfiles)
          rw [hother] at hdelivered
          rw [hdelivered]
          exact .refl _
      | error failure =>
          obtain ⟨-, -, -, fault, -, -, -, rfl⟩ := Files.exists_of_deliver_eq_error hfiles
          cases otherResult with
          | ok =>
              have hdelivered := h.symm.deliver (congrArg Prod.fst hother)
              rw [hfiles] at hdelivered
              cases hdelivered
          | error otherFailure =>
              obtain ⟨-, -, -, otherFault, -, -, -, rfl⟩ :=
                Files.exists_of_deliver_eq_error hother
              exact .unwritten fault otherFault

-----------------------------------------------------------------------------------------
-- What is written
-----------------------------------------------------------------------------------------

/-- A tree `after` that differs from `before` only by the written forms of a graph, each in the
file that the arguments name for it.  Where both name one file the description stays.
-/
structure HoldsOutputs (arguments : Arguments) (builder : GraphBuilder) (graph : Graph)
    (before after : Files) : Prop where
  description path
    : arguments.description = some path
      → after.read path = .ok (builder.renderDescription graph).toUTF8
  page path
    : arguments.page = some path
      → (∀ other place, arguments.description = some other → before.locate path = .ok place
          → before.locate other ≠ .ok place)
      → after.read path = .ok (builder.renderPage graph).toUTF8
  elsewhere place
    : (∀ path, arguments.page = some path ∨ arguments.description = some path
        → before.locate path ≠ .ok place)
      → after.entry? place = before.entry? place
  unasked : arguments.page = none → arguments.description = none → after = before

theorem Arguments.path_of_mem_outputs {arguments : Arguments} {builder : GraphBuilder}
    {graph : Graph} {output : Output}
    (h : output ∈ arguments.outputs builder.settings.rendering graph)
    : arguments.page = some output.path ∨ arguments.description = some output.path := by
  rw [outputs_eq] at h
  rcases List.mem_append.mp h with hpage | hdescription
  · obtain ⟨path, hpath, rfl⟩ := Option.map_eq_some_iff.mp (Option.mem_toList.mp hpage)
    exact .inl hpath
  · obtain ⟨path, hpath, rfl⟩ := Option.map_eq_some_iff.mp (Option.mem_toList.mp hdescription)
    exact .inr hpath

/-- The tree behind a delivery holds the written forms that were asked for. -/
theorem holdsOutputs_of_deliver {arguments : Arguments} {builder : GraphBuilder}
    {graph : Graph} {before after : Files}
    (h : before.deliver (arguments.outputs builder.settings.rendering graph) = (.ok (), after))
    : HoldsOutputs arguments builder graph before after where
  description path hpath := by
    rw [Arguments.outputs_eq, hpath, Option.map_some, Option.toList_some] at h
    obtain ⟨place, hlocate⟩ := Files.exists_place_of_deliver h List.mem_concat_self
    exact Files.read_of_deliver h hlocate (Files.lastText?_concat_of_eq hlocate)
  page path hpath hother := by
    have hpages
        : (arguments.page.map fun path =>
            (⟨path, Render.Html.formatName, builder.renderPage graph⟩ : Output)).toList
          = [] ++ [⟨path, Render.Html.formatName, builder.renderPage graph⟩] := by
      rw [hpath]
      rfl
    rw [Arguments.outputs_eq, hpages] at h
    obtain ⟨place, hlocate⟩ :=
      Files.exists_place_of_deliver h (List.mem_append_left _ List.mem_concat_self)
    refine Files.read_of_deliver h hlocate ?_
    cases hdescription : arguments.description with
    | none =>
        rw [Option.map_none, Option.toList_none, List.append_nil]
        exact Files.lastText?_concat_of_eq hlocate
    | some other =>
        rw [Option.map_some, Option.toList_some,
          Files.lastText?_concat_of_ne (hother other place hdescription hlocate)]
        exact Files.lastText?_concat_of_eq hlocate
  elsewhere place hplace := by
    have hnone
        : before.lastText? (arguments.outputs builder.settings.rendering graph) place = none :=
      Files.lastText?_eq_none fun output hmem =>
        hplace output.path (Arguments.path_of_mem_outputs hmem)
    have hentry := Files.entry_of_deliver h place
    rw [hnone] at hentry
    exact hentry
  unasked hpage hdescription := by
    rw [Arguments.outputs_eq, hpage, hdescription] at h
    exact (congrArg Prod.snd h).symm

-----------------------------------------------------------------------------------------
-- Runs
-----------------------------------------------------------------------------------------

/-- Why a run fails behind its configuration: the story cannot be read or is not well-formed, or an
output cannot be written as the files are when the run ends.
-/
inductive LateFailure (arguments : Arguments) (before after : Files) : Failure → Prop
  | unread {fault : FileFault} (refused : before.readText arguments.input = .error fault)
    : LateFailure arguments before after (.file fault)
  | malformed {source : String} {error : ParseError}
    (holds : before.readText arguments.input = .ok source)
    (refused : Markup.parse source = .error error)
    : LateFailure arguments before after (.parse error source)
  | unwritten {path text : String} {fault : FileFault}
    (asked : arguments.page = some path ∨ arguments.description = some path)
    (refused : after.write path text = .error fault)
    : LateFailure arguments before after (.file fault)

/-- What a run has to do with the library.  It takes the arguments in a tree `before` and ends with
a result and a tree `after`.
-/
structure RefinesLibrary (systemPath : Option String) (arguments : Arguments) (before : Files)
    (result : Except Failure Unit) (after : Files) : Prop where
  /-- A run that succeeds has written the graph of its story as a builder with its settings. -/
  written
    : result = .ok ()
      → ∃ configured settings source document graph,
          before.Configures systemPath arguments.config configured
          ∧ arguments.Uses configured settings
          ∧ before.readText arguments.input = .ok source
          ∧ (GraphBuilder.mk settings).parse source = .ok document
          ∧ (GraphBuilder.mk settings).build document = .ok graph
          ∧ HoldsOutputs arguments ⟨settings⟩ graph before after
  /-- A configuration file gives the settings that are chosen in its text, and the defaults of the
  others.
  -/
  configured path manuscript profile
    : before.ConfigPath systemPath arguments.config (some path)
      → before.isFile path = true
      → before.readText path = .ok (Toml.Manuscript.text manuscript)
      → Settings.Profile.WrittenIn profile manuscript
      → ∀ settings,
          before.Configures systemPath arguments.config settings
          ↔ settings = profile.settings
            ∧ ∃ pattern, profile.settings.conventions.pattern = .ok pattern
  /-- Once the settings are loaded no document is without a graph. -/
  builds configured settings
    : before.Configures systemPath arguments.config configured
      → arguments.Uses configured settings
      → ∀ document, ∃ graph, (GraphBuilder.mk settings).build document = .ok graph
  /-- Once the settings are loaded a run fails at a file or at the story. -/
  failures configured failure
    : before.pathExists arguments.input = true
      → before.Configures systemPath arguments.config configured
      → result = .error failure
      → LateFailure arguments before after failure
  /-- A run in another tree, with the same story and the same configuration file before all
  others, writes the same texts or fails in the same way, whatever other configuration files
  there are.
  -/
  precedence path otherPath other
    : before.Decides path arguments.config
      → before.AgreeAt other.files path
      → before.AgreeAt other.files arguments.input
      → ∃ planned,
          (result, after) = before.finish planned
          ∧ outcome (run otherPath arguments) other = other.files.finish planned
          ∧ (before.SameDirectories other.files
              → SameVerdict result (outcome (run otherPath arguments) other).1)

/-- A run that is to write or to fail as planned succeeds only with its plan carried out. -/
theorem Files.exists_of_finish_eq_ok {files after : Files}
    {planned : Except Failure (List Output)} (h : files.finish planned = (.ok (), after))
    : ∃ outputs, planned = .ok outputs ∧ files.deliver outputs = (.ok (), after) := by
  cases planned with
  | error failure => cases h
  | ok outputs => exact ⟨outputs, rfl, h⟩

/-- Behind the settings a run is kept from writing by a file or by the story only. -/
theorem Files.lateFailure_of_outputs {files : Files} {systemPath : Option String}
    {arguments : Arguments} {configured : Settings} {failure : Failure}
    (hinput : files.pathExists arguments.input = true)
    (hconfigured : files.Configures systemPath arguments.config configured)
    (h : files.outputs systemPath arguments = .error failure) (after : Files)
    : LateFailure arguments files after failure := by
  have huses : arguments.Uses configured (arguments.adjust configured) :=
    Arguments.uses_iff.2 rfl
  rw [Files.outputs, if_pos hinput, configures_iff.1 hconfigured] at h
  dsimp only [bind, Except.bind] at h
  cases hread : files.readText arguments.input with
  | error fault =>
      rw [needText, hread] at h
      cases h
      exact .unread hread
  | ok source =>
      rw [needText, hread] at h
      dsimp only [mapError_ok] at h
      rw [GraphBuilder.graphOf_eq ⟨arguments.adjust configured⟩] at h
      cases hparse : Markup.parse source with
      | error error =>
          rw [GraphBuilder.parse, hparse] at h
          cases h
          exact .malformed hread hparse
      | ok document =>
          obtain ⟨graph, hgraph⟩ := huses.exists_build hconfigured document
          rw [GraphBuilder.parse, hparse] at h
          dsimp only [mapError_ok, bind, Except.bind] at h
          rw [hgraph] at h
          cases h

/-- Whatever a run finds among the files, it does what a builder of the library does. -/
theorem refinesLibrary_run (systemPath : Option String) (arguments : Arguments)
    (workspace : Workspace)
    : RefinesLibrary systemPath arguments workspace.files
        (outcome (run systemPath arguments) workspace).1
        (outcome (run systemPath arguments) workspace).2 where
  written hresult := by
    have hrun := ends_run systemPath arguments workspace
    obtain ⟨outputs, houtputs, hdelivery⟩ :=
      Files.exists_of_finish_eq_ok (hrun.symm.trans (Prod.ext hresult rfl))
    obtain ⟨configured, source, graph, hconfigured, hsource, hgraph, rfl⟩ :=
      Files.exists_of_outputs_eq_ok houtputs
    rw [GraphBuilder.graphOf_eq ⟨arguments.adjust configured⟩] at hgraph
    obtain ⟨document, hparse, hbuild⟩ := exists_of_bind_eq_ok hgraph
    exact ⟨configured, arguments.adjust configured, source, document, graph,
      Files.configures_iff.2 hconfigured, Arguments.uses_iff.2 rfl, hsource, hparse, hbuild,
      holdsOutputs_of_deliver hdelivery⟩
  configured path manuscript profile chosen found holds written settings :=
    Files.configures_iff_of_profile chosen found holds written settings
  builds configured settings hconfigured huses document := huses.exists_build hconfigured document
  failures configured failure hinput hconfigured hresult := by
    rw [ends_run systemPath arguments workspace] at hresult ⊢
    dsimp only at hresult ⊢
    cases houtputs : workspace.files.outputs systemPath arguments with
    | error planned =>
        rw [houtputs] at hresult
        cases hresult
        exact Files.lateFailure_of_outputs hinput hconfigured houtputs _
    | ok outputs =>
        rw [houtputs] at hresult
        obtain ⟨_, _, graph, -, -, -, hwritten⟩ := Files.exists_of_outputs_eq_ok houtputs
        obtain ⟨done, output, rest, fault, hsplit, -, hfault, rfl⟩ :=
          Files.exists_of_deliver_eq_error (Prod.ext hresult rfl)
        have hmem : output ∈ outputs := hsplit ▸ List.mem_append_right done List.mem_cons_self
        rw [hwritten] at hmem
        exact .unwritten (Arguments.path_of_mem_outputs hmem) hfault
  precedence path otherPath other hdecides hconfig hinput := by
    have hrun := ends_run systemPath arguments workspace
    have hother := ends_run otherPath arguments other
    dsimp only at hrun hother
    rw [Files.outputs_congr (hdecides.settings hconfig) hinput] at hother
    refine ⟨workspace.files.outputs systemPath arguments, hrun, hother, fun hsame => ?_⟩
    rw [hrun, hother]
    exact hsame.finish _

/-- A plain key of a configuration file. -/
def configKey (name : String) (nonempty : name.toList ≠ [])
    (allowed : name.toList.all Toml.isKeyChar = true)
    : Toml.Manuscript.Key :=
  ⟨name.toList, nonempty, List.all_eq_true.1 allowed⟩

/-- A configuration file with a pattern and a name for graphs, which is to show identifiers. -/
def taleConfig : Toml.Manuscript where
  sections :=
    [{ gaps := [.comment " The markers of this story".toList (by simp [Toml.isControl])]
       name := configKey "inference" (by decide) rfl
       lines :=
        [{ gaps := []
           key := configKey "inline_pattern" (by decide) rfl
           content := .text (.literal "see (x+)" (by simp [Toml.isControl])) }]
       distinct := by decide },
      { gaps := [.blank '\n' (.inr rfl)]
        name := configKey "render" (by decide) rfl
        lines :=
          [{ gaps := []
             key := configKey "display" (by decide) rfl
             content := .text (.basic "id") },
            { gaps := []
              key := configKey "graph_name" (by decide) rfl
              content := .text (.basic "tale") }]
        distinct := by decide }]
  distinct := by decide
  ending := []

/-- A working directory with a story and a configuration. -/
def taleFiles : Files :=
  ((Files.new ["home", "story"]).create "s.xml"
      (.file "<scene id=\"one\" label=\"Start\"/>".toUTF8)).create
    "plotgraph/config.toml" (.file taleConfig.text.toUTF8)

/-- Asks for the page and for the description, with labels in them. -/
def taleArguments : Arguments :=
  { input := "s.xml", page := some "g.html", description := some "g.dot", useLabel := true }

/-- What the configuration file chooses. -/
def taleProfile : Settings.Profile :=
  { inlinePattern := some "see (x+)", display := some .id, graphName := some "tale" }

theorem writtenIn_tale : taleProfile.WrittenIn taleConfig where
  idAttributes := rfl
  labelAttributes := rfl
  targetAttributes := rfl
  optionTags := rfl
  inlinePattern := rfl
  maxLabelLength := rfl
  fits _ h := nomatch h
  display := rfl
  graphName := rfl
  pageTitle := rfl
  scriptUrl := rfl

/-- The settings of the run, which shows labels. -/
def taleSettings : Settings :=
  { conventions := { inlinePattern := "see (x+)" }
    rendering := { display := .label, graphName := "tale" } }

/-- The only element of the story is shown by its label, whatever edges there are. -/
theorem exists_description_tale {document : Document} {graph : Graph}
    (hparse
      : (GraphBuilder.mk taleSettings).parse "<scene id=\"one\" label=\"Start\"/>"
        = .ok document)
    (hbuild : (GraphBuilder.mk taleSettings).build document = .ok graph)
    : ∃ edges,
        (GraphBuilder.mk taleSettings).renderDescription graph
        = "digraph tale \x7b\n  rankdir=LR;\n  node [shape=box];\n"
          ++ "  \"one\" [label=\"Start\"];\n" ++ edges ++ "\x7d\n" := by
  have hgraph
      : taleSettings.graphOf "<scene id=\"one\" label=\"Start\"/>" = .ok graph := by
    rw [GraphBuilder.graphOf_eq ⟨taleSettings⟩, hparse]
    exact hbuild
  have hnodes
      : ((taleSettings.graphOf "<scene id=\"one\" label=\"Start\"/>").map fun graph =>
          graph.nodes.nodes.flatMap (Render.Dot.nodeStatement .label)).toOption
        = some "  \"one\" [label=\"Start\"];\n".toList := by
    decide +kernel
  rw [hgraph] at hnodes
  refine ⟨String.ofList (graph.edges.flatMap Render.Dot.edgeStatement), ?_⟩
  have hstatements
      : graph.nodes.nodes.flatMap (Render.Dot.nodeStatement .label)
        = "  \"one\" [label=\"Start\"];\n".toList :=
    Option.some.inj hnodes
  have hhead
      : "digraph ".toList ++ Render.Dot.graphName "tale" ++ " \x7b\n".toList
          ++ "  rankdir=LR;\n  node [shape=box];\n".toList
        = "digraph tale \x7b\n  rankdir=LR;\n  node [shape=box];\n".toList := by
    decide
  have htext
      : (GraphBuilder.mk taleSettings).renderDescription graph
        = String.ofList
            ("digraph ".toList ++ Render.Dot.graphName "tale" ++ " \x7b\n".toList
              ++ ("  rankdir=LR;\n  node [shape=box];\n".toList
                ++ graph.nodes.nodes.flatMap (Render.Dot.nodeStatement .label)
                ++ graph.edges.flatMap Render.Dot.edgeStatement)
              ++ "\x7d\n".toList) :=
    rfl
  rw [htext, hstatements, ← List.append_assoc, ← List.append_assoc, hhead]
  simp only [String.ofList_append, String.ofList_toList]

theorem readText_story_tale
    : taleFiles.readText "s.xml" = .ok "<scene id=\"one\" label=\"Start\"/>" := by
  decide +kernel

theorem readText_config_tale
    : taleFiles.readText "plotgraph/config.toml" = .ok taleConfig.text := by
  decide +kernel

theorem exists_pattern_tale
    : ∃ pattern, taleProfile.settings.conventions.pattern = .ok pattern :=
  exists_of_isOk (by decide +kernel)

/-- The run succeeds: it loads the profile, the story has a graph, and both files can be written. -/
theorem fst_outcome_tale
    : (outcome (run none taleArguments) { files := taleFiles }).1 = .ok () := by
  have hinput : taleFiles.pathExists taleArguments.input = true := by decide +kernel
  have hconfigured : taleFiles.Configures none none taleProfile.settings :=
    (Files.configures_iff_of_profile (.workingDirectory rfl) rfl readText_config_tale
      writtenIn_tale _).2 ⟨rfl, exists_pattern_tale⟩
  obtain ⟨graph, hgraph⟩
      : ∃ graph,
          (taleArguments.adjust taleProfile.settings).graphOf
            "<scene id=\"one\" label=\"Start\"/>"
          = .ok graph :=
    exists_graphOf exists_pattern_tale (by decide +kernel)
  have houtputs
      : taleFiles.outputs none taleArguments
        = .ok
            (taleArguments.outputs (taleArguments.adjust taleProfile.settings).rendering graph) :=
    Files.outputs_of_graphOf hinput (Files.configures_iff.1 hconfigured) readText_story_tale hgraph
  have hrun
      : outcome (run none taleArguments) { files := taleFiles }
        = taleFiles.deliver
            (taleArguments.outputs (taleArguments.adjust taleProfile.settings).rendering graph) :=
    outcome_run_of_outputs houtputs
  have hpage (text : String)
      : taleFiles.write "g.html" text
        = .ok (taleFiles.put ["home", "story", "g.html"] (.file text.toUTF8)) :=
    rfl
  have hdescription (content : ByteArray) (text : String)
      : ∃ written,
          (taleFiles.put ["home", "story", "g.html"] (.file content)).write "g.dot" text
          = .ok written :=
    ⟨_, rfl⟩
  obtain ⟨written, hwritten⟩ := hdescription _ _
  rw [hrun]
  exact congrArg Prod.fst
    ((Files.deliver_cons_of_ok (hpage _)).trans (Files.deliver_cons_of_ok hwritten))

/-- A run that is asked for labels shows them, although the configuration file chooses identifiers;
the name of the graph is the one in the file.
-/
theorem refinesLibrary_run_of_labels
    : taleFiles.readText "plotgraph/config.toml"
        = .ok
            ("# The markers of this story\n[inference]\ninline_pattern = 'see (x+)'\n"
              ++ "\n[render]\ndisplay = \"id\"\ngraph_name = \"tale\"\n")
      ∧ taleFiles.readText "s.xml" = .ok "<scene id=\"one\" label=\"Start\"/>"
      ∧ (outcome (run none taleArguments) { files := taleFiles }).1 = .ok ()
      ∧ ∃ edges,
          (outcome (run none taleArguments) { files := taleFiles }).2.read "g.dot"
          = .ok
              ("digraph tale \x7b\n  rankdir=LR;\n  node [shape=box];\n"
                ++ "  \"one\" [label=\"Start\"];\n" ++ edges ++ "\x7d\n").toUTF8 := by
  have hrefines := refinesLibrary_run none taleArguments { files := taleFiles }
  obtain ⟨configured, settings, source, document, graph, hloaded, huses, hread, hparse, hbuild,
    hholds⟩ := hrefines.written fst_outcome_tale
  obtain ⟨rfl, -⟩ :=
    (hrefines.configured _ taleConfig taleProfile (.workingDirectory rfl) rfl readText_config_tale
      writtenIn_tale configured).1 hloaded
  obtain rfl : settings = taleSettings := huses.labelled rfl
  obtain rfl := Except.ok.inj (readText_story_tale.symm.trans hread)
  obtain ⟨edges, hedges⟩ := exists_description_tale hparse hbuild
  exact ⟨readText_config_tale, readText_story_tale, fst_outcome_tale, edges,
    hedges ▸ hholds.description _ rfl⟩

end StoryAtlas.Session
