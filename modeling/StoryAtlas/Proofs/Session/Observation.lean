import StoryAtlas.Proofs.Outcome
import StoryAtlas.Session.Run

/-! A run as a function of the files.
Up to the first output a run only looks at the files, so that what it does is told by the tree it
begins with: the failure it meets, or the texts to be written and their paths.  Writing them one
after the other is all that changes the tree.
-/

namespace StoryAtlas.Session

-----------------------------------------------------------------------------------------
-- What the files tell
-----------------------------------------------------------------------------------------

namespace Files

/-- The configuration file to be used: the one that is named, or else the first of the usual
ones that is a file.
-/
def configFile? (files : Files) (systemPath explicit : Option String) : Option ConfigFile :=
  match explicit with
  | some path => some ⟨.explicit, path⟩
  | none =>
      if files.isFile localConfigPath then some ⟨.workingDirectory, localConfigPath⟩
      else (systemPath.filter files.isFile).map (⟨.system, ·⟩)

/-- The text of a file, or the failure of a run that needs it. -/
def needText (files : Files) (path : String) : Except Failure String :=
  (files.readText path).mapError .file

/-- The settings in the configuration file at a path. -/
def settingsAt (files : Files) (path : String) : Except Failure Settings :=
  if files.isFile path then do
    let text ← files.needText path
    (settingsOfFile path text).mapError .config
  else .error (.config (.fileNotFound path))

/-- The settings of a configuration file, the defaults without one. -/
def settings (files : Files) (systemPath explicit : Option String) : Except Failure Settings :=
  match files.configFile? systemPath explicit with
  | none => .ok {}
  | some file => files.settingsAt file.path

/-- The texts that a run is to write. -/
def outputs (files : Files) (systemPath : Option String) (arguments : Arguments)
    : Except Failure (List Output) :=
  if files.pathExists arguments.input then do
    let settings ← files.settings systemPath arguments.config
    let source ← files.needText arguments.input
    let graph ← (arguments.adjust settings).graphOf source
    .ok (arguments.outputs (arguments.adjust settings).rendering graph)
  else .error (.inputNotFound arguments.input)

/-- Writes texts one after the other, up to the first that cannot be written. -/
def deliver (files : Files) : List Output → Except Failure Unit × Files
  | [] => (.ok (), files)
  | output :: rest =>
      match files.write output.path output.text with
      | .error fault => (.error (.file fault), files)
      | .ok written => written.deliver rest

/-- How a run ends that is to write texts or else to fail. -/
def finish (files : Files) : Except Failure (List Output) → Except Failure Unit × Files
  | .error failure => (.error failure, files)
  | .ok outputs => files.deliver outputs

end Files

-----------------------------------------------------------------------------------------
-- Actions that look at the files
-----------------------------------------------------------------------------------------

section Looks

variable {α β : Type}

/-- An action in a workspace that leaves the files alone, with what it gives for them. -/
def Looks (action : StateM Workspace α) (told : Files → α) : Prop :=
  ∀ workspace,
    (action.run workspace).1 = told workspace.files
    ∧ (action.run workspace).2.files = workspace.files

/-- An action of this kind that may fail. -/
def Observes (action : ExceptT Failure (StateM Workspace) α)
    (told : Files → Except Failure α)
    : Prop :=
  Looks action.run told

namespace Looks

theorem pure (value : α) : Looks (pure value) fun _ => value :=
  fun _ => ⟨rfl, rfl⟩

theorem congr {action : StateM Workspace α} {told other : Files → α} (h : Looks action told)
    (htold : ∀ files, told files = other files)
    : Looks action other :=
  funext htold ▸ h

theorem bind {action : StateM Workspace α} {next : α → StateM Workspace β}
    {told : Files → α} {toldNext : α → Files → β} (h : Looks action told)
    (hnext : ∀ value, Looks (next value) (toldNext value))
    : Looks (action >>= next) fun files => toldNext (told files) files := by
  intro workspace
  obtain ⟨hvalue, hfiles⟩ := h workspace
  obtain ⟨hresult, hkept⟩ := hnext (action.run workspace).1 (action.run workspace).2
  rw [hfiles] at hresult hkept
  exact ⟨hresult.trans (congrArg (toldNext · workspace.files) hvalue), hkept⟩

theorem ite {first second : StateM Workspace α} {toldFirst toldSecond : Files → α}
    (test : Bool) (hfirst : Looks first toldFirst) (hsecond : Looks second toldSecond)
    : Looks (if test then first else second) fun files =>
        if test then toldFirst files else toldSecond files := by
  cases test with
  | true => exact hfirst
  | false => exact hsecond

/-- Noting a record in front of an action changes nothing it tells. -/
theorem afterNote (record : Record) {action : StateM Workspace α} {told : Files → α}
    (h : Looks action told)
    : Looks (do Host.note record; action) told :=
  fun workspace => h { workspace with journal := workspace.journal.push record }

theorem pathExists (path : String)
    : Looks (Host.pathExists path) fun files => files.pathExists path :=
  fun _ => ⟨rfl, rfl⟩

theorem isFile (path : String) : Looks (Host.isFile path) fun files => files.isFile path :=
  fun _ => ⟨rfl, rfl⟩

theorem readText (path : String)
    : Looks (Host.readText path) fun files => files.readText path :=
  fun _ => ⟨rfl, rfl⟩

theorem noteAll (records : List Record) : Looks (noteAll records) fun _ => () := by
  induction records with
  | nil => exact .pure ()
  | cons record rest ih => exact afterNote record ih

theorem findConfig (systemPath explicit : Option String)
    : Looks (findConfig systemPath explicit) fun files =>
        files.configFile? systemPath explicit := by
  unfold Session.findConfig Files.configFile?
  cases explicit with
  | some path => exact .pure _
  | none =>
      have hlocal (found : Bool) {rest : StateM Workspace (Option ConfigFile)}
          {told : Files → Option ConfigFile} (hrest : Looks rest told) :=
        ite found (.pure (some ⟨.workingDirectory, localConfigPath⟩)) hrest
      have hnone (record : Record) := afterNote record (.pure (none : Option ConfigFile))
      cases systemPath with
      | none => exact (isFile localConfigPath).bind fun found => hlocal found (hnone _)
      | some path =>
          refine congr ((isFile localConfigPath).bind fun found => hlocal found
            ((isFile path).bind fun found => ite found (.pure _) (hnone _))) fun files => ?_
          dsimp only
          rw [Option.filter_some]
          split
          · rfl
          · split <;> rfl

end Looks

namespace Observes

theorem pure (value : α) : Observes (pure value) fun _ => .ok value :=
  Looks.pure (Except.ok value)

theorem throw (failure : Failure)
    : Observes (throw failure : ExceptT _ _ α) fun _ => .error failure :=
  Looks.pure (Except.error failure)

theorem lift {action : StateM Workspace α} {told : Files → α} (h : Looks action told)
    : Observes (liftM action) fun files => .ok (told files) :=
  Looks.bind h fun value => .pure (Except.ok value)

/-- Noting records in front of an action changes nothing it tells. -/
theorem afterNotes (records : List Record) {action : ExceptT Failure (StateM Workspace) α}
    {told : Files → Except Failure α} (h : Observes action told)
    : Observes (do liftM (m := StateM Workspace) (noteAll records); action) told :=
  Looks.bind (.noteAll records) fun _ => h

theorem afterNote (record : Record) {action : ExceptT Failure (StateM Workspace) α}
    {told : Files → Except Failure α} (h : Observes action told)
    : Observes (do liftM (m := StateM Workspace) (Host.note record); action) told :=
  Looks.afterNote record h

theorem bind {action : ExceptT Failure (StateM Workspace) α}
    {next : α → ExceptT Failure (StateM Workspace) β}
    {told : Files → Except Failure α} {toldNext : α → Files → Except Failure β}
    (h : Observes action told) (hnext : ∀ value, Observes (next value) (toldNext value))
    : Observes (action >>= next) fun files =>
        (told files).bind fun value => toldNext value files := by
  have hcont (outcome : Except Failure α)
      : Looks (ExceptT.bindCont next outcome) fun files =>
          outcome.bind fun value => toldNext value files := by
    cases outcome with
    | error failure => exact .pure (Except.error failure)
    | ok value => exact hnext value
  exact Looks.bind h hcont

theorem ite {first second : ExceptT Failure (StateM Workspace) α}
    {toldFirst toldSecond : Files → Except Failure α} (test : Bool)
    (hfirst : Observes first toldFirst) (hsecond : Observes second toldSecond)
    : Observes (if test then first else second) fun files =>
        if test then toldFirst files else toldSecond files := by
  cases test with
  | true => exact hfirst
  | false => exact hsecond

theorem readFile (path : String) : Observes (readFile path) fun files => files.needText path := by
  refine (lift (.readText path)).bind fun text =>
    (?_ : Observes _ fun _ => text.mapError .file)
  cases text with
  | error fault => exact throw (.file fault)
  | ok text => exact pure text

theorem settingsOfFile (path text : String)
    : Observes
        (match settingsOfFile path text with
          | .ok settings => Pure.pure settings
          | .error fault => MonadExcept.throw (.config fault))
        fun _ => (Session.settingsOfFile path text).mapError .config := by
  cases Session.settingsOfFile path text with
  | error fault => exact throw (.config fault)
  | ok settings => exact pure settings

theorem loadSettings (systemPath explicit : Option String)
    : Observes (loadSettings systemPath explicit) fun files =>
        files.settings systemPath explicit := by
  refine (lift (.findConfig systemPath explicit)).bind fun file? =>
    (?_ : Observes _ fun files =>
      match file? with
      | none => .ok {}
      | some file => files.settingsAt file.path)
  cases file? with
  | none => exact afterNote _ (pure ({} : Settings))
  | some file =>
      have hread := (readFile file.path).bind fun text => settingsOfFile file.path text
      have hfound := (lift (.isFile file.path)).bind fun found =>
        ite found hread (throw (.config (.fileNotFound file.path)))
      exact afterNote _ (Looks.congr hfound fun files => rfl)

theorem readStory (builder : GraphBuilder) (source : String)
    : Observes (readStory builder source) fun _ => builder.parse source := by
  refine afterNotes _ ?_
  cases builder.parse source with
  | error failure => exact throw failure
  | ok document => exact afterNote _ (pure document)

theorem buildStory (builder : GraphBuilder) (document : Document)
    : Observes (buildStory builder document) fun _ => builder.build document := by
  refine afterNotes _ ?_
  cases builder.build document with
  | error failure => exact throw failure
  | ok graph => exact pure graph

end Observes

end Looks

-----------------------------------------------------------------------------------------
-- The whole run
-----------------------------------------------------------------------------------------

/-- How an action in a workspace ends, and the files behind it. -/
def outcome {α : Type} (action : ExceptT Failure (StateM Workspace) α) (workspace : Workspace)
    : Except Failure α × Files :=
  ((action.run.run workspace).1, (action.run.run workspace).2.files)

/-- An action whose end and files behind it are told by the files it begins with. -/
def Ends {α : Type} (action : ExceptT Failure (StateM Workspace) α)
    (finish : Files → Except Failure α × Files)
    : Prop :=
  ∀ workspace, outcome action workspace = finish workspace.files

namespace Ends

variable {α β : Type} {action : ExceptT Failure (StateM Workspace) α}

theorem congr {finish other : Files → Except Failure α × Files} (h : Ends action finish)
    (hfinish : ∀ files, finish files = other files)
    : Ends action other :=
  funext hfinish ▸ h

theorem of_observes {told : Files → Except Failure α} (h : Observes action told)
    : Ends action fun files => (told files, files) :=
  fun workspace => Prod.ext (h workspace).1 (h workspace).2

/-- An action behind one that only looks at the files begins with the same files. -/
theorem bind {next : α → ExceptT Failure (StateM Workspace) β}
    {told : Files → Except Failure α} {finish : α → Files → Except Failure β × Files}
    (h : Observes action told) (hnext : ∀ value, Ends (next value) (finish value))
    : Ends (action >>= next) fun files =>
        match told files with
        | .error failure => (.error failure, files)
        | .ok value => finish value files := by
  intro workspace
  obtain ⟨hvalue, hfiles⟩ := h workspace
  have hrun
      : outcome (action >>= next) workspace
        = outcome (ExceptT.mk (ExceptT.bindCont next (action.run.run workspace).1))
            (action.run.run workspace).2 :=
    rfl
  rw [hrun, hvalue, ← hfiles]
  dsimp only
  cases told (action.run.run workspace).2.files with
  | error failure => rfl
  | ok value => exact hnext value _

theorem ite {first second : ExceptT Failure (StateM Workspace) α}
    {finishFirst finishSecond : Files → Except Failure α × Files} (test : Bool)
    (hfirst : Ends first finishFirst) (hsecond : Ends second finishSecond)
    : Ends (if test then first else second) fun files =>
        if test then finishFirst files else finishSecond files := by
  cases test with
  | true => exact hfirst
  | false => exact hsecond

theorem afterNote (record : Record) {finish : Files → Except Failure α × Files}
    (h : Ends action finish)
    : Ends (do liftM (m := StateM Workspace) (Host.note record); action) finish :=
  fun workspace => h { workspace with journal := workspace.journal.push record }

/-- An action goes on in the workspace that a lifted one leaves. -/
theorem outcome_lift_bind (lifted : StateM Workspace α)
    (next : α → ExceptT Failure (StateM Workspace) β) (workspace : Workspace)
    : outcome (liftM lifted >>= next) workspace
      = outcome (next (lifted.run workspace).1) (lifted.run workspace).2 :=
  rfl

/-- A text that is written is all that changes in a workspace. -/
theorem run_writeText (path text : String) (workspace : Workspace)
    : (Host.writeText path text : StateM Workspace _).run workspace
      = match workspace.files.write path text with
        | .ok files => (.ok (), { workspace with files })
        | .error fault => (.error fault, workspace) := by
  have hrun
      : (Host.writeText path text : StateM Workspace _).run workspace
        = StateT.run
            (match workspace.files.write path text with
              | .ok files => do
                  set { workspace with files }
                  return .ok ()
              | .error fault => return .error fault)
            workspace :=
    rfl
  rw [hrun]
  cases workspace.files.write path text <;> rfl

/-- Texts are written one after the other, by induction on the texts. -/
theorem writeAll (outputs : List Output)
    : Ends (writeAll outputs) fun files => files.deliver outputs := by
  induction outputs with
  | nil => exact fun _ => rfl
  | cons output rest ih =>
      intro workspace
      unfold Session.writeAll
      rw [outcome_lift_bind, run_writeText]
      dsimp only
      rw [Files.deliver]
      cases workspace.files.write output.path output.text with
      | error fault => rfl
      | ok files => exact afterNote _ ih _

/-- Without texts to write there is only a summary to note. -/
theorem writeOutputs (graph : Graph) (outputs : List Output)
    : Ends
        (match outputs with
          | [] => liftM (m := StateM Workspace) (noteAll (summary graph))
          | outputs => Session.writeAll outputs)
        fun files => files.deliver outputs := by
  cases outputs with
  | nil => exact .of_observes (.lift (.noteAll _))
  | cons output rest => exact .writeAll _

end Ends

/-- A run ends with the failure that the files tell, or else with the writing of the texts that
they tell.
-/
theorem ends_run (systemPath : Option String) (arguments : Arguments)
    : Ends (run systemPath arguments) fun files =>
        files.finish (files.outputs systemPath arguments) := by
  have hgraph (builder : GraphBuilder) (source : String) :=
    Ends.bind (.readStory builder source) fun document =>
      .bind (.buildStory builder document) fun graph =>
        .writeOutputs graph (arguments.outputs builder.settings.rendering graph)
  have hread :=
    Ends.bind (.loadSettings systemPath arguments.config) fun settings =>
      .bind (.readFile arguments.input) fun source => hgraph ⟨arguments.adjust settings⟩ source
  have hfound (found : Bool) :=
    Ends.ite found hread (.of_observes (.throw (.inputNotFound arguments.input)))
  have hwhole :=
    Ends.afterNote arguments.record (.bind (.lift (.pathExists arguments.input)) hfound)
  refine .congr hwhole fun files => ?_
  dsimp only
  unfold Files.outputs
  split
  · cases files.settings systemPath arguments.config with
    | error failure => rfl
    | ok settings =>
        cases files.needText arguments.input with
        | error failure => rfl
        | ok source =>
            have hgraphOf := GraphBuilder.graphOf_eq ⟨arguments.adjust settings⟩ source
            dsimp only at hgraphOf
            simp only [bind, Except.bind] at hgraphOf ⊢
            rw [hgraphOf]
            cases GraphBuilder.parse ⟨arguments.adjust settings⟩ source with
            | error failure => rfl
            | ok document =>
                dsimp only
                cases GraphBuilder.build ⟨arguments.adjust settings⟩ document <;> rfl
  · rfl

end StoryAtlas.Session
