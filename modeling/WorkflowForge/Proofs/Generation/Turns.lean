import WorkflowForge.Generation.Generator

/-!
A run as a list of turns. A turn passes over an application that has no process managers, or builds one process manager,
on a bench of its own that has the issues and the disk of the run. Runs are therefore compared and measured turn by
turn, whatever applications the turns come from.
-/

namespace WorkflowForge

/-- One thing that a run does in turn. -/
inductive Turn where
  | idle (application : String)
  | build (application : String) (index : Nat × Nat) (m : ProcessManager)

def MigrationModel.managers (model : MigrationModel) : List ProcessManager :=
  model.applications.flatMap (·.processManagers)

namespace Progress

/-- The bench on which a process manager is built in the course of a run. -/
def bench (p : Progress) (application : String) (m : ProcessManager) : Bench :=
  ⟨.null, 0, [], p.issues, p.journal.bind [("workflow", .string m.name), ("application", .string application)], p.disk⟩

/-- The run after a process manager was built. -/
def after (p : Progress) (index : Nat × Nat) (m : ProcessManager) (result : Except Fault (List Path)) (c : Bench) :
    Progress :=
  { p with
    disk := c.disk
    journal := c.journal.unbind ["workflow", "application"]
    issues := c.issues
    written := p.written ++ result.toOption.getD []
    workflows := p.workflows ++ [m.name]
    stamps := p.stamps ++ [(index, c.stamps)] }

/-- The run after an application without process managers. -/
def passedOver (p : Progress) (application : String) : Progress :=
  { p with
    journal := p.journal.emit .debug Generator.logger "no_workflows_to_generate"
      [("application", .string application)] }

end Progress

namespace Run

theorem run_bind {α β : Type} (x : Run α) (f : α → Run β) (p : Progress) :
    (x >>= f).run p = match x.run p with
      | (.ok a, q) => (f a).run q
      | (.error s, q) => (.error s, q) := by
  change (match x.run p with | (r, q) => (ExceptT.bindCont f r : StateM Progress (Except Stop β)) q) = _
  cases x.run p with
  | mk r q => cases r <;> rfl

end Run

namespace Generator

def runTurn (g : Generator) (cancel : Option (Nat → Bool)) : Turn → Run Unit
  | .idle application => modify fun p => p.passedOver application
  | .build application index m => do
    checkCancelled cancel m
    g.runManager application index m

def runTurns (g : Generator) (cancel : Option (Nat → Bool)) : List Turn → Run Unit
  | [] => return
  | t :: rest => do
    g.runTurn cancel t
    runTurns g cancel rest

/-- The turns for the process managers of an application, numbered from an index on. -/
def managerTurns (application : String) (number : Nat) : (index : Nat) → List ProcessManager → List Turn
  | _, [] => []
  | index, m :: rest => .build application (number, index) m :: managerTurns application number (index + 1) rest

/-- The turns of a run over applications, numbered from a number on. -/
def turns : (number : Nat) → List Application → List Turn
  | _, [] => []
  | number, a :: rest =>
    (if a.processManagers.isEmpty then [.idle a.name] else managerTurns a.name number 0 a.processManagers) ++
      turns (number + 1) rest

variable (g : Generator) (cancel : Option (Nat → Bool))

theorem runTurns_append (first second : List Turn) :
    g.runTurns cancel (first ++ second) = g.runTurns cancel first >>= fun _ => g.runTurns cancel second := by
  induction first with
  | nil => rfl
  | cons t rest ih => rw [List.cons_append, runTurns, runTurns, ih, bind_assoc]

theorem runManagers_eq (application : String) (number index : Nat) (managers : List ProcessManager) :
    g.runManagers cancel application number index managers =
      g.runTurns cancel (managerTurns application number index managers) := by
  induction managers generalizing index with
  | nil => rfl
  | cons m rest ih => rw [runManagers, managerTurns, runTurns, runTurn, ih, bind_assoc]

/-- A run over applications is a run of their turns. -/
theorem runApplications_eq (number : Nat) (applications : List Application) :
    g.runApplications cancel number applications = g.runTurns cancel (turns number applications) := by
  induction applications generalizing number with
  | nil => rfl
  | cons a rest ih =>
      rw [runApplications, turns, runTurns_append, ih, runManagers_eq]
      cases hmanagers : a.processManagers with
      | nil => rfl
      | cons m others => rfl

theorem turns_append (number : Nat) (first second : List Application) :
    turns number (first ++ second) = turns number first ++ turns (number + first.length) second := by
  induction first generalizing number with
  | nil => rfl
  | cons a rest ih =>
      rw [List.cons_append, turns, turns, ih, List.length_cons, List.append_assoc, Nat.add_assoc, Nat.add_comm 1]

theorem mem_of_mem_managerTurns {application other : String} {number first : Nat} {index : Nat × Nat}
    {m : ProcessManager} {managers : List ProcessManager}
    (h : Turn.build other index m ∈ managerTurns application number first managers) : m ∈ managers := by
  induction managers generalizing first with
  | nil => cases h
  | cons m' rest ih =>
      rw [managerTurns] at h
      rcases List.mem_cons.mp h with heq | hrest
      · cases heq
        exact List.mem_cons_self
      · exact List.mem_cons_of_mem _ (ih hrest)

/-- Every process manager that has a turn is one of the model's. -/
theorem mem_of_mem_turns {application : String} {number : Nat} {index : Nat × Nat} {m : ProcessManager}
    {applications : List Application} (h : Turn.build application index m ∈ turns number applications) :
    m ∈ applications.flatMap (·.processManagers) := by
  induction applications generalizing number with
  | nil => cases h
  | cons a rest ih =>
      rw [turns] at h
      rw [List.flatMap_cons]
      rcases List.mem_append.mp h with hhere | hrest
      · apply List.mem_append_left
        split at hhere
        · cases List.mem_singleton.mp hhere
        · exact mem_of_mem_managerTurns hhere
      · exact List.mem_append_right _ (ih hrest)

theorem runManager_run (application : String) (index : Nat × Nat) (m : ProcessManager) (p : Progress) :
    (g.runManager application index m).run p =
      (match ((g.buildManager m).run (p.bench application m)).1 with
        | .ok _ => .ok ()
        | .error f => .error (.fault f),
      p.after index m ((g.buildManager m).run (p.bench application m)).1
        ((g.buildManager m).run (p.bench application m)).2) := by
  have hget : (MonadState.get : Run Progress).run p = (.ok p, p) := rfl
  rw [runManager, Run.run_bind, hget]
  dsimp only
  rw [← Progress.bench]
  cases (g.buildManager m).run (p.bench application m) with
  | mk result c => cases result <;> rfl

theorem runTurn_build_run (application : String) (index : Nat × Nat) (m : ProcessManager) (p : Progress) :
    (g.runTurn none (.build application index m)).run p = (g.runManager application index m).run p := rfl

theorem runTurns_cons_run (t : Turn) (rest : List Turn) (p : Progress) :
    (g.runTurns cancel (t :: rest)).run p = match (g.runTurn cancel t).run p with
      | (.ok (), q) => (g.runTurns cancel rest).run q
      | (.error s, q) => (.error s, q) := by
  rw [runTurns, Run.run_bind]
  cases (g.runTurn cancel t).run p with
  | mk result q => cases result <;> rfl

/-- What every turn keeps, whether it ends well or not, a run keeps. -/
theorem runTurns_preserves (ts : List Turn) {R : Progress → Progress → Prop} (hrefl : ∀ p, R p p)
    (htrans : ∀ {p q r}, R p q → R q r → R p r)
    (hturn : ∀ t ∈ ts, ∀ p, R p ((g.runTurn cancel t).run p).2) (p : Progress) :
    R p ((g.runTurns cancel ts).run p).2 := by
  induction ts generalizing p with
  | nil => exact hrefl p
  | cons t rest ih =>
      rw [List.forall_mem_cons] at hturn
      have hfirst := hturn.1 p
      rw [runTurns_cons_run]
      cases hrun : (g.runTurn cancel t).run p with
      | mk result q =>
          rw [hrun] at hfirst
          cases result with
          | ok => exact htrans hfirst (ih hturn.2 q)
          | error s => exact hfirst

theorem checkCancelled_some_run (answers : Nat → Bool) (m : ProcessManager) (p : Progress) :
    (checkCancelled (some answers) m).run p =
      if answers p.checks then (.error (.cancelled m.name), { p with
        checks := p.checks + 1
        journal := p.journal.emit .warning logger "generation_cancelled" [("workflow", .string m.name)] })
      else (.ok (), { p with checks := p.checks + 1 }) := by
  have hget : (MonadState.get : Run Progress).run p = (.ok p, p) := rfl
  rw [checkCancelled, Run.run_bind, hget]
  cases hanswer : answers p.checks with
  | false =>
      simp only [hanswer]
      rfl
  | true =>
      simp only [hanswer]
      rfl

/-- Asking whether to stop counts, and is told of if the answer is yes. -/
theorem checkCancelled_run (m : ProcessManager) (p : Progress) :
    ∃ checks, (checkCancelled cancel m).run p = (.ok (), { p with checks := checks }) ∨
      (checkCancelled cancel m).run p = (.error (.cancelled m.name), { p with
        checks := checks
        journal := p.journal.emit .warning logger "generation_cancelled" [("workflow", .string m.name)] }) := by
  cases cancel with
  | none => exact ⟨p.checks, .inl rfl⟩
  | some answers =>
      refine ⟨p.checks + 1, ?_⟩
      rw [checkCancelled_some_run]
      split
      · exact .inr rfl
      · exact .inl rfl

/-- A generation is a run of turns, and the report at its end. -/
theorem generate_run (model : MigrationModel) (p : Progress) :
    (g.generate cancel model).run p =
      if model.target.hostsStandard then
        match (g.runTurns cancel (turns 0 model.applications)).run p with
        | (.ok (), q) =>
          (if q.report.isSuccess then .ok q.report else .error (.failed q.report),
            { q with journal := logCompletion q.report q.journal })
        | (.error s, q) => (.error s, q)
      else
        (.ok ⟨[], [], [], true⟩, { p with
          journal := p.journal.emit .info logger "target_not_supported" [("target", .string model.target.name)] }) := by
  rw [generate]
  by_cases htarget : model.target.hostsStandard = true
  · rw [if_pos htarget, if_neg (by simp [htarget]), Run.run_bind, runApplications_eq]
    cases (g.runTurns cancel (turns 0 model.applications)).run p with
    | mk result q =>
        cases result with
        | error s => rfl
        | ok =>
            have hget : (MonadState.get : Run Progress).run q = (.ok q, q) := rfl
            dsimp only
            rw [Run.run_bind, hget]
            dsimp only
            cases hsuccess : q.report.isSuccess with
            | true => rfl
            | false => rfl
  · rw [if_neg htarget, if_pos (by simpa using htarget)]
    rfl

end Generator

deriving instance DecidableEq for Report, Stop

/-- A generator with one directory of templates. -/
def smallGenerator : Generator := ⟨[.ofText "templates"], .ofText "generated", [".j2"], none, .standard⟩

/-- A process manager with a workflow of a single element and the skeletons of some documents, each with its file, the
output path of the rendered text, and the text that says where the document is written. -/
def smallManager (name element : String) (documents : List (ArtifactKind × String × Option String × String)) :
    ProcessManager :=
  { name := name
    key := ""
    snippets := documents.map fun (kind, file, outputPath, _) => ⟨Snippet.key kind.elementKind none, file, outputPath⟩
    resources := [⟨Snippet.standardFamily, "", documents.map fun (kind, _, _, output) =>
      (kind.outputParameter, .text output)⟩]
    workflow := some { (default : Workflow) with element := { (default : Element) with name := element } } }

def smallModel (managers : List ProcessManager) : MigrationModel := ⟨.standard, [⟨"app", managers⟩]⟩

/-- Two documents, the second of which needs nothing of the first. -/
def settingsModel (connections : String) : MigrationModel :=
  smallModel [smallManager "pm" "flow"
    [(.connections, connections, none, "c.json"), (.appSettings, "app.json", none, "a.json")]]

/-- A disk with templates alone. -/
def smallDisk (templates : List (String × Content)) : Disk where
  entries := (["templates"], .directory) :: templates.map fun (name, content) => (["templates", name], .file content)
  workingDirectory := []
  home := []

/-- A run of the small generator on a disk with templates alone. -/
def smallRun (model : MigrationModel) (templates : List (String × Content)) : Except Stop Report × Progress :=
  (smallGenerator.generate none model).run (Progress.start (smallDisk templates) .empty 0)

end WorkflowForge
