import WorkflowForge.Proofs.Generation.Trace
import WorkflowForge.Proofs.Generation.Turns

/-!
The history of a run: the documents that it sets out to build, each with the bench as it was then. A run that is not
stopped sets out to build the documents of all kinds for every process manager that has what they need. What an attempt
wrote is in the report, and so are the issues it recorded; issues are only added, and each carries the name of the
process manager that was being built.
-/

namespace WorkflowForge

/-- Issues were added, all of them of one workflow. -/
def Issue.Added (workflow : String) (old new : List Issue) : Prop :=
  ∃ more, new = old ++ more ∧ ∀ i ∈ more, i.workflow = workflow

namespace Issue.Added

variable {workflow : String}

theorem refl (issues : List Issue) : Added workflow issues issues := ⟨[], by simp, by simp⟩

theorem trans {a b c : List Issue} (hab : Added workflow a b) (hbc : Added workflow b c) : Added workflow a c := by
  obtain ⟨first, rfl, hfirst⟩ := hab
  obtain ⟨second, rfl, hsecond⟩ := hbc
  refine ⟨first ++ second, List.append_assoc _ _ _, ?_⟩
  intro i hi
  rcases List.mem_append.mp hi with hi | hi
  · exact hfirst i hi
  · exact hsecond i hi

theorem isPrefix {old new : List Issue} (h : Added workflow old new) : old <+: new := by
  obtain ⟨more, rfl, _⟩ := h
  exact List.prefix_append _ _

end Issue.Added

namespace Build

theorem recorded_added (w : Workshop) (kind : IssueKind) (message : String) (path : Option String) (b : Bench) :
    Issue.Added w.manager.name b.issues (recorded ⟨kind, w.manager.name, message, path⟩ b).issues :=
  ⟨[⟨kind, w.manager.name, message, path⟩], rfl, by simp⟩

theorem renderJson_added (w : Workshop) (item : Option Item) (snippet : Snippet) (b : Bench) :
    Issue.Added w.manager.name b.issues ((renderJson w item snippet true).run b).2.issues := by
  rw [renderJson_run]
  split
  · exact recorded_added w _ _ _ (numbered item b)
  · split
    · exact .refl _
    · split
      · exact .refl _
      · split
        · exact .refl _
        · exact .refl _

theorem Composed.added {w : Workshop} {t : Terms} {within : List String} {α : Type} {x : Build α} {post : α → Prop}
    (hx : Composed w t within x post)
    (hfurther : ∀ (β : Type) (y : Build β) b, t.further β y → (y.run b).2.issues = b.issues) (b : Bench) :
    Issue.Added w.manager.name b.issues (x.run b).2.issues := by
  refine Composed.preserves (R := fun b c => Issue.Added w.manager.name b.issues c.issues) ?_ ?_ ?_ ?_ ?_ ?_ ?_ hx b
  · intro b
    exact .refl _
  · intro a b c hab hbc
    exact hab.trans hbc
  · intro b level logger name fields _
    exact .refl _
  · intro b kind message path
    exact recorded_added w kind message path b
  · intro b s name body
    exact .refl _
  · intro b item snippet _ _
    exact renderJson_added w item snippet b
  · intro β y b hy
    rw [hfurther β y b hy]
    exact .refl _

end Build

/-- A document that a run sets out to build, and the bench as it was then. -/
structure Attempt where
  workshop : Workshop
  kind : ArtifactKind
  before : Bench

namespace Generator

variable {g : Generator} {w : Workshop}

theorem prepareDirectory_issues (g : Generator) (b : Bench) : (g.prepareDirectory.run b).2.issues = b.issues := by
  rw [prepareDirectory_run]
  split
  · rfl
  · split <;> rfl

theorem writeDocument_issues (w : Workshop) (kind : ArtifactKind) (target : Path) (text : String) (b : Bench) :
    ((writeDocument w kind target text).run b).2.issues = b.issues := by
  rw [writeDocument_run]
  split <;> rfl

theorem step_issues {β : Type} {y : Build β} (hy : g.Step w β y) (b : Bench) : (y.run b).2.issues = b.issues := by
  cases hy with
  | onDocument f => rfl
  | write kind output houtput text => exact writeDocument_issues w kind _ text b
  | prepare => exact prepareDirectory_issues g b

theorem terms_added {within : List String} {α : Type} {x : Build α} {post : α → Prop}
    (hx : Build.Composed w (g.terms w) within x post) (b : Bench) :
    Issue.Added w.manager.name b.issues (x.run b).2.issues :=
  hx.added (fun _ _ b hy => step_issues hy b) b

theorem buildManager_added (hregistry : g.registry.BuiltIn) (m : ProcessManager) (b : Bench) :
    Issue.Added m.name b.issues ((g.buildManager m).run b).2.issues :=
  terms_added (buildManager_composed hregistry m) b

/-- The attempts to build documents of some kinds, one after the other, until one fails. -/
def attempts (g : Generator) (w : Workshop) : List ArtifactKind → Bench → List Attempt
  | [], _ => []
  | kind :: rest, b =>
    ⟨w, kind, b⟩ ::
      match (g.attemptArtifact w kind).run b with
      | (.ok _, c) => attempts g w rest c
      | (.error _, _) => []

/-- The bench on which the documents of a process manager are built, once the generation directory is there. -/
def announced (m : ProcessManager) (b : Bench) : Bench :=
  { b with journal := b.journal.emit .info logger "generating_workflow" [("workflow", .string m.name)] }

def managerAttempts (g : Generator) (m : ProcessManager) (b : Bench) : List Attempt :=
  match g.ready? m with
  | none => []
  | some resource =>
    match g.prepareDirectory.run b with
    | (.ok _, c) => g.attempts (g.workshop m (some resource)) ArtifactKind.all (announced m c)
    | (.error _, _) => []

def turnAttempts (g : Generator) (t : Turn) (p : Progress) : List Attempt :=
  match t with
  | .idle _ => []
  | .build application _ m => g.managerAttempts m (p.bench application m)

/-- The attempts of a run, as far as it gets. -/
def history (g : Generator) (cancel : Option (Nat → Bool)) : List Turn → Progress → List Attempt
  | [], _ => []
  | t :: rest, p =>
    match (g.runTurn cancel t).run p with
    | (.ok (), q) => g.turnAttempts t p ++ history g cancel rest q
    | (.error (.cancelled _), _) => []
    | (.error _, _) => g.turnAttempts t p

/-- The documents that are to be attempted for a process manager. -/
def expected (g : Generator) (m : ProcessManager) : List (Workshop × ArtifactKind) :=
  match g.ready? m with
  | none => []
  | some resource => ArtifactKind.all.map fun kind => (g.workshop m (some resource), kind)

end Generator

/-- The process managers that have a turn. -/
def Turn.managers : Turn → List ProcessManager
  | .idle _ => []
  | .build _ _ m => [m]

namespace Attempt

/-- What is attempted. -/
def document (a : Attempt) : Workshop × ArtifactKind := (a.workshop, a.kind)

/-- What an attempt comes to. -/
def outcome (g : Generator) (a : Attempt) : Except Fault (Option Path) × Bench :=
  (g.attemptArtifact a.workshop a.kind).run a.before

/-- An attempt that ended well, with what it wrote and all issues until then among the given ones. -/
def Ends (g : Generator) (a : Attempt) (written : List Path) (issues : List Issue) : Prop :=
  ∃ result after, a.outcome g = (.ok result, after) ∧ (∀ p, result = some p → p ∈ written) ∧ after.issues <+: issues

theorem Ends.mono {g : Generator} {a : Attempt} {written more : List Path} {issues later : List Issue}
    (h : a.Ends g written issues) (hwritten : written ⊆ more) (hissues : issues <+: later) : a.Ends g more later := by
  obtain ⟨result, after, houtcome, hpath, hprefix⟩ := h
  exact ⟨result, after, houtcome, fun p hp => hwritten (hpath p hp), hprefix.trans hissues⟩

/-- The path of the document, if the attempt wrote it. -/
def written (g : Generator) (a : Attempt) : Option Path := (a.outcome g).1.toOption.join

/-- The issues that the attempt recorded, in their order. -/
def recorded (g : Generator) (a : Attempt) : List Issue := (a.outcome g).2.issues.drop a.before.issues.length

end Attempt

namespace Generator

variable {g : Generator} {w : Workshop}

theorem attempts_of_ok (hregistry : g.registry.BuiltIn) {flow : Workflow} (hflow : w.manager.workflow = some flow)
    {kinds : List ArtifactKind} {b c : Bench} {written : List Path}
    (hrun : (g.buildArtifacts w kinds).run b = (.ok written, c)) :
    (g.attempts w kinds b).map Attempt.document = kinds.map (fun kind => (w, kind)) ∧
      ∀ a ∈ g.attempts w kinds b, a.Ends g written c.issues := by
  induction kinds generalizing b written with
  | nil => exact ⟨rfl, by simp [attempts]⟩
  | cons kind rest ih =>
      obtain ⟨first, d, hfirst, hrun⟩ := Build.run_bind_ok hrun
      obtain ⟨others, e, hothers, hrun⟩ := Build.run_bind_ok hrun
      cases hrun
      obtain ⟨hkinds, hends⟩ := ih hothers
      have hadded := terms_added (buildArtifacts_composed hregistry hflow rest) d
      rw [hothers] at hadded
      rw [attempts, hfirst]
      refine ⟨by rw [List.map_cons, hkinds]; rfl, ?_⟩
      rw [List.forall_mem_cons]
      constructor
      · refine ⟨first, d, hfirst, ?_, hadded.isPrefix⟩
        rintro p rfl
        exact List.mem_append_left _ (by simp)
      · intro a ha
        exact (hends a ha).mono (List.subset_append_right _ _) (List.prefix_refl _)

theorem attempt_added (hregistry : g.registry.BuiltIn) {a : Attempt} {flow : Workflow}
    (hflow : a.workshop.manager.workflow = some flow) :
    Issue.Added a.workshop.manager.name a.before.issues (a.outcome g).2.issues :=
  terms_added (.recovering (buildArtifact_composed hregistry hflow a.kind)) a.before

/-- What is written and recorded while documents of some kinds are built is what the attempts write and record. -/
theorem attempts_account (hregistry : g.registry.BuiltIn) {flow : Workflow} (hflow : w.manager.workflow = some flow)
    {kinds : List ArtifactKind} {b c : Bench} {written : List Path}
    (hrun : (g.buildArtifacts w kinds).run b = (.ok written, c)) :
    written = (g.attempts w kinds b).filterMap (·.written g) ∧
      c.issues = b.issues ++ (g.attempts w kinds b).flatMap (·.recorded g) := by
  induction kinds generalizing b written with
  | nil =>
      cases hrun
      exact ⟨rfl, (List.append_nil _).symm⟩
  | cons kind rest ih =>
      obtain ⟨first, d, hfirst, hrun⟩ := Build.run_bind_ok hrun
      obtain ⟨others, e, hothers, hrun⟩ := Build.run_bind_ok hrun
      cases hrun
      obtain ⟨hwritten, hissues⟩ := ih hothers
      have houtcome : Attempt.outcome g ⟨w, kind, b⟩ = (.ok first, d) := hfirst
      have hadded := attempt_added (a := ⟨w, kind, b⟩) hregistry hflow
      rw [houtcome] at hadded
      have hrecorded : d.issues = b.issues ++ Attempt.recorded g ⟨w, kind, b⟩ := by
        rw [Attempt.recorded, houtcome]
        exact (List.prefix_iff_eq_append.mp hadded.isPrefix).symm
      have hpath : Attempt.written g ⟨w, kind, b⟩ = first := by
        rw [Attempt.written, houtcome]
        rfl
      rw [attempts, hfirst]
      constructor
      · rw [List.filterMap_cons, hpath, hwritten]
        cases first <;> rfl
      · rw [hissues, hrecorded, List.flatMap_cons, List.append_assoc]

theorem managerAttempts_of_ok (hregistry : g.registry.BuiltIn) {m : ProcessManager} {b c : Bench} {written : List Path}
    (hrun : (g.buildManager m).run b = (.ok written, c)) :
    (g.managerAttempts m b).map Attempt.document = g.expected m ∧
      ∀ a ∈ g.managerAttempts m b, a.Ends g written c.issues := by
  unfold managerAttempts expected
  cases hready : g.ready? m with
  | none => exact ⟨rfl, by simp⟩
  | some resource =>
      obtain ⟨⟨flow, hflow⟩, _, heq⟩ := buildManager_of_ready hready
      rw [heq] at hrun
      obtain ⟨_, d, hprepare, hrun⟩ := Build.run_bind_ok hrun
      obtain ⟨_, e, hlog, hrun⟩ := Build.run_bind_ok hrun
      cases hlog
      dsimp only
      rw [hprepare]
      exact attempts_of_ok (w := g.workshop m (some resource)) hregistry hflow hrun

/-- The issue of a process manager that has snippets and no workflow. -/
def ownIssues (m : ProcessManager) : List Issue :=
  if m.snippets.isEmpty || m.workflow.isSome then []
  else [⟨.missingWorkflowModel, m.name, s!"Process manager '{m.name}' has no workflow model", none⟩]

/-- A process manager that lacks something gets no documents, and no issue except for the workflow that it lacks. -/
theorem buildManager_issues_of_not_ready {m : ProcessManager} {b c : Bench} {written : List Path}
    (hready : g.ready? m = none) (hrun : (g.buildManager m).run b = (.ok written, c)) :
    c.issues = b.issues ++ ownIssues m := by
  unfold ownIssues
  unfold buildManager at hrun
  dsimp only at hrun
  split at hrun
  · next hsnippets =>
      cases hrun
      simp [hsnippets]
  · next hsnippets =>
      split at hrun
      · next hworkflow =>
          cases hrun
          rw [Option.isNone_iff_eq_none] at hworkflow
          simp [hsnippets, hworkflow, workshop]
      · next hworkflow =>
          have hsome : m.workflow.isSome = true := by
            rw [Bool.not_eq_true, Option.isNone_eq_false_iff] at hworkflow
            exact hworkflow
          rw [hsome, Bool.or_true, if_pos rfl, List.append_nil]
          split at hrun
          · cases hrun
            rfl
          · next hpaths =>
              obtain ⟨_, d, hprepare, hrun⟩ := Build.run_bind_ok hrun
              have hissues := prepareDirectory_issues g b
              rw [hprepare] at hissues
              split at hrun
              · cases hrun
                exact hissues
              · next resource hresource => simp [ready?, hsnippets, hworkflow, hpaths, hresource] at hready

/-- What is written and recorded while a process manager is built is what its attempts write and record, and its own
issue. -/
theorem managerAttempts_account (hregistry : g.registry.BuiltIn) {m : ProcessManager} {b c : Bench}
    {written : List Path} (hrun : (g.buildManager m).run b = (.ok written, c)) :
    written = (g.managerAttempts m b).filterMap (·.written g) ∧
      c.issues = b.issues ++ (ownIssues m ++ (g.managerAttempts m b).flatMap (·.recorded g)) := by
  unfold managerAttempts
  cases hready : g.ready? m with
  | none =>
      have hnothing : written = [] := (buildManager_of_not_ready hready none).post hrun
      have hissues := buildManager_issues_of_not_ready hready hrun
      exact ⟨hnothing, by simpa using hissues⟩
  | some resource =>
      obtain ⟨⟨flow, hflow⟩, _, heq⟩ := buildManager_of_ready hready
      rw [heq] at hrun
      obtain ⟨_, d, hprepare, hrun⟩ := Build.run_bind_ok hrun
      obtain ⟨_, e, hlog, hrun⟩ := Build.run_bind_ok hrun
      cases hlog
      have hissues := prepareDirectory_issues g b
      rw [hprepare] at hissues
      obtain ⟨hwritten, hrecorded⟩ :=
        attempts_account (w := g.workshop m (some resource)) hregistry hflow hrun
      have hown : ownIssues m = [] := by simp [ownIssues, hflow]
      dsimp only
      rw [hprepare]
      refine ⟨hwritten, ?_⟩
      rw [hown, List.nil_append, hrecorded, ← hissues]
      rfl

/-- A turn for a process manager that ends well builds it to the end. -/
theorem runTurn_build_ok {cancel : Option (Nat → Bool)} {application : String} {index : Nat × Nat} {m : ProcessManager}
    {p q : Progress} (hrun : (g.runTurn cancel (.build application index m)).run p = (.ok (), q)) :
    ∃ checks written c, (g.buildManager m).run (p.bench application m) = (.ok written, c) ∧
      q = ({ p with checks := checks } : Progress).after index m (.ok written) c := by
  rw [runTurn, Run.run_bind] at hrun
  obtain ⟨checks, hcheck | hcheck⟩ := checkCancelled_run cancel m p
  · rw [hcheck] at hrun
    dsimp only at hrun
    rw [runManager_run] at hrun
    have hbench : ({ p with checks := checks } : Progress).bench application m = p.bench application m := rfl
    rw [hbench] at hrun
    cases hbuild : (g.buildManager m).run (p.bench application m) with
    | mk result c =>
        rw [hbuild] at hrun
        cases result with
        | error f => cases hrun
        | ok written =>
            cases hrun
            exact ⟨checks, written, c, rfl, rfl⟩
  · rw [hcheck] at hrun
    cases hrun

/-- What a turn that ends well adds to a run. -/
theorem runTurn_ok (hregistry : g.registry.BuiltIn) {cancel : Option (Nat → Bool)} {t : Turn} {p q : Progress}
    (hrun : (g.runTurn cancel t).run p = (.ok (), q)) :
    (g.turnAttempts t p).map Attempt.document = t.managers.flatMap g.expected ∧
      (∀ a ∈ g.turnAttempts t p, a.Ends g q.written q.issues) ∧
      q.written = p.written ++ (g.turnAttempts t p).filterMap (·.written g) ∧ p.issues <+: q.issues ∧
      q.workflows = p.workflows ++ t.managers.map (·.name) := by
  cases t with
  | idle application =>
      cases hrun
      exact ⟨rfl, by simp [turnAttempts], (List.append_nil _).symm, List.prefix_refl _, (List.append_nil _).symm⟩
  | build application index m =>
      obtain ⟨checks, written, c, hbuild, rfl⟩ := runTurn_build_ok hrun
      have hadded := buildManager_added hregistry m (p.bench application m)
      rw [hbuild] at hadded
      obtain ⟨hdocuments, hends⟩ := managerAttempts_of_ok hregistry hbuild
      obtain ⟨hwritten, _⟩ := managerAttempts_account hregistry hbuild
      refine ⟨?_, ?_, ?_, hadded.isPrefix, rfl⟩
      · rw [turnAttempts, hdocuments]
        simp [Turn.managers]
      · intro a ha
        exact (hends a ha).mono (List.subset_append_right _ _) (List.prefix_refl _)
      · rw [turnAttempts, ← hwritten]
        rfl

/-- A run that ends well attempts all documents of all process managers, and what they wrote and recorded is kept. -/
theorem history_of_ok (hregistry : g.registry.BuiltIn) {cancel : Option (Nat → Bool)} {ts : List Turn}
    {p q : Progress} (hrun : (g.runTurns cancel ts).run p = (.ok (), q)) :
    (g.history cancel ts p).map Attempt.document = (ts.flatMap Turn.managers).flatMap g.expected ∧
      (∀ a ∈ g.history cancel ts p, a.Ends g q.written q.issues) ∧
      q.written = p.written ++ (g.history cancel ts p).filterMap (·.written g) ∧ p.issues <+: q.issues ∧
      q.workflows = p.workflows ++ (ts.flatMap Turn.managers).map (·.name) := by
  induction ts generalizing p with
  | nil =>
      cases hrun
      exact ⟨rfl, by simp [history], (List.append_nil _).symm, List.prefix_refl _, (List.append_nil _).symm⟩
  | cons t rest ih =>
      rw [runTurns_cons_run] at hrun
      rw [history]
      cases hturn : (g.runTurn cancel t).run p with
      | mk result r =>
          rw [hturn] at hrun
          cases result with
          | error s => cases hrun
          | ok =>
              obtain ⟨hdocuments, hends, hwritten, hissues, hworkflows⟩ := runTurn_ok hregistry hturn
              obtain ⟨hdocuments', hends', hwritten', hissues', hworkflows'⟩ := ih hrun
              refine ⟨?_, ?_, ?_, hissues.trans hissues', ?_⟩
              · rw [List.map_append, hdocuments, hdocuments', List.flatMap_cons, List.flatMap_append]
              · have hsubset : r.written ⊆ q.written := by
                  rw [hwritten']
                  exact List.subset_append_left _ _
                rw [List.forall_mem_append]
                exact ⟨fun a ha => (hends a ha).mono hsubset hissues', hends'⟩
              · rw [hwritten', hwritten, List.filterMap_append, List.append_assoc]
              · rw [hworkflows', hworkflows, List.flatMap_cons, List.map_append, List.append_assoc]

theorem managers_managerTurns (application : String) (number index : Nat) (managers : List ProcessManager) :
    (managerTurns application number index managers).flatMap Turn.managers = managers := by
  induction managers generalizing index with
  | nil => rfl
  | cons m rest ih =>
      rw [managerTurns, List.flatMap_cons, ih]
      rfl

/-- The turns of a run are those of the model's process managers, in their order. -/
theorem managers_turns (number : Nat) (applications : List Application) :
    (turns number applications).flatMap Turn.managers = applications.flatMap (·.processManagers) := by
  induction applications generalizing number with
  | nil => rfl
  | cons a rest ih =>
      rw [turns, List.flatMap_append, ih, List.flatMap_cons]
      split
      · next hempty =>
          rw [List.isEmpty_iff] at hempty
          rw [hempty]
          rfl
      · rw [managers_managerTurns]

/-- Documents are attempted only where there is a workflow. -/
theorem exists_workflow_of_mem_expected {m : ProcessManager} {document : Workshop × ArtifactKind}
    (h : document ∈ g.expected m) : ∃ flow, document.1.manager.workflow = some flow := by
  unfold expected at h
  cases hready : g.ready? m with
  | none =>
      rw [hready] at h
      cases h
  | some resource =>
      rw [hready] at h
      obtain ⟨kind, _, rfl⟩ := List.mem_map.mp h
      exact (buildManager_of_ready hready).1

/-- A run that has not come to its end has no report. -/
theorem runTurns_ne_failed {cancel : Option (Nat → Bool)} {ts : List Turn} {p q : Progress} {report : Report} :
    (g.runTurns cancel ts).run p ≠ (.error (.failed report), q) := by
  induction ts generalizing p with
  | nil =>
      intro h
      cases h
  | cons t rest ih =>
      intro h
      rw [runTurns_cons_run] at h
      split at h
      · exact ih h
      · next s r hturn =>
          cases h
          cases t with
          | idle application => cases hturn
          | build application index m =>
              rw [runTurn, Run.run_bind] at hturn
              obtain ⟨checks, hcheck | hcheck⟩ := checkCancelled_run cancel m p
              · rw [hcheck] at hturn
                dsimp only at hturn
                rw [runManager_run] at hturn
                have hresult := (Prod.mk.inj hturn).1
                split at hresult
                · cases hresult
                · cases hresult
              · rw [hcheck] at hturn
                cases hturn

/-- A generation that ends with a report is a run of all turns to their end. -/
theorem exists_run_of_report {cancel : Option (Nat → Bool)} {model : MigrationModel} {p : Progress} {report : Report}
    (htarget : model.target.hostsStandard = true)
    (hreport : ((g.generate cancel model).run p).1 = .ok report ∨
      ((g.generate cancel model).run p).1 = .error (.failed report)) :
    ∃ q, (g.runTurns cancel (turns 0 model.applications)).run p = (.ok (), q) ∧ report = q.report := by
  rw [generate_run, if_pos htarget] at hreport
  cases hrun : (g.runTurns cancel (turns 0 model.applications)).run p with
  | mk result q =>
      rw [hrun] at hreport
      cases result with
      | ok =>
          refine ⟨q, rfl, ?_⟩
          dsimp only at hreport
          split at hreport
          · rcases hreport with h | h
            · cases h
              rfl
            · cases h
          · rcases hreport with h | h
            · cases h
            · cases h
              rfl
      | error s =>
          rcases hreport with h | h
          · cases h
          · cases h
            exact absurd hrun runTurns_ne_failed

end Generator

end WorkflowForge
