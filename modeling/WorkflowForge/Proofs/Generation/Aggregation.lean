import WorkflowForge.Proofs.Generation.Faults

/-!
Errors are collected over a whole run, which fails at its end. A run that meets with no fault builds every process
manager and attempts the documents of all kinds for each that has what they need, whatever became of those before. What
it reports is, in the order in which it came about, what the attempts wrote and recorded, and the missing workflows. An
attempt whose snippet cannot be rendered writes nothing and adds one issue that says so; no other attempt adds one. The
run fails exactly if one of the issues is an error, and what it fails with is the whole report.
-/

namespace WorkflowForge

namespace Build

theorem renderJson_kinds (w : Workshop) (item : Option Item) (snippet : Snippet) (b : Bench) :
    ∃ more, ((renderJson w item snippet true).run b).2.issues = b.issues ++ more ∧
      ∀ i ∈ more, i.kind ≠ .renderFailed := by
  have hnone : ∃ more, b.issues = b.issues ++ more ∧ ∀ i ∈ more, i.kind ≠ .renderFailed := ⟨[], by simp, by simp⟩
  rw [renderJson_run]
  split
  · exact ⟨[missing w snippet], rfl, by simp [missing]⟩
  · split
    · exact hnone
    · split
      · exact hnone
      · split
        · exact hnone
        · exact hnone

/-- Of two builds side by side the first records no failed renderings. -/
theorem Paired.kinds {w w' : Workshop} {p : Pairing} {within : List String} {α : Type} {x x' : Build α}
    {post : α → Prop} (hx : Paired w w' p within x x' post)
    (hfurther : ∀ (β : Type) (y y' : Build β) b, p.further β y y' → (y.run b).2.issues = b.issues) (b : Bench) :
    ∃ more, (x.run b).2.issues = b.issues ++ more ∧ ∀ i ∈ more, i.kind ≠ .renderFailed := by
  have hnone (b : Bench) : ∃ more, b.issues = b.issues ++ more ∧ ∀ i ∈ more, i.kind ≠ .renderFailed :=
    ⟨[], by simp, by simp⟩
  induction hx generalizing b with
  | pure _ => exact hnone b
  | @bind _ _ x _ f _ _ _ hx _ ihx ihf =>
      obtain ⟨first, hfirst, hkinds⟩ := ihx b
      rw [run_bind]
      cases hrun : x.run b with
      | mk r c =>
          rw [hrun] at hfirst
          cases r with
          | error e => exact ⟨first, hfirst, hkinds⟩
          | ok a =>
              obtain ⟨second, hsecond, hkinds'⟩ := ihf a (hx.post hrun) c
              refine ⟨first ++ second, ?_, ?_⟩
              · rw [← List.append_assoc, ← hfirst]
                exact hsecond
              · rw [List.forall_mem_append]
                exact ⟨hkinds, hkinds'⟩
  | document => exact hnone b
  | log level logger name fields fields' hname => exact hnone b
  | record kind message path hkind => exact ⟨[⟨kind, w.manager.name, message, path⟩], rfl, by simpa using hkind⟩
  | add s hwithin name body => exact hnone b
  | renderJson item item' snippet hsnippet hitem => exact renderJson_kinds w item snippet b
  | further h =>
      rw [hfurther _ _ _ b h]
      exact hnone b

/-- A rendering that fails names the file of its snippet. -/
theorem renderJson_names {w : Workshop} {item : Option Item} {snippet : Snippet} {b c : Bench} {e : RenderError}
    (hrun : (renderJson w item snippet true).run b = (.error (.render e), c)) :
    e.templateFile = snippet.templateFile := by
  have htext {source : Path} {d : Bench} (h : textOf w item snippet source d = .error (.render e)) :
      e.templateFile = snippet.templateFile := by
    unfold textOf at h
    split at h
    · cases h
    · split at h
      · unfold renderText at h
        split at h
        · cases h
        · cases h
          rfl
        · cases h
      · cases h
  have hparse {text : String} (h : parseRendered snippet text = .error (.render e)) :
      e.templateFile = snippet.templateFile := by
    unfold parseRendered at h
    split at h
    · cases h
    · cases h
    · cases h
      rfl
  rw [renderJson_run] at hrun
  split at hrun
  · cases hrun
  · split at hrun
    · next f hfailed =>
        have hf : f = .render e := Except.error.inj (Prod.mk.inj hrun).1
        rw [hf] at hfailed
        exact htext hfailed
    · split at hrun
      · exact hparse (Prod.mk.inj hrun).1
      · split at hrun
        · exact hparse (Prod.mk.inj hrun).1
        · cases hrun

end Build

namespace Generator

variable {g : Generator} {w : Workshop} {flow : Workflow}

/-- The issues of a document are those of its draft. -/
theorem buildArtifact_issues (kind : ArtifactKind) (b : Bench) :
    ((g.buildArtifact w kind).run b).2.issues = ((g.draft w kind).run b).2.issues := by
  rw [buildArtifact_run]
  cases (g.draft w kind).run b with
  | mk drafted c =>
      cases drafted with
      | error f => rfl
      | ok found =>
          cases found with
          | none => rfl
          | some pair =>
              have hissues := writeDocument_issues w kind pair.1 (pair.2.text (Layout.ofIndent g.jsonIndent)) c
              dsimp only
              cases hwrite : (writeDocument w kind pair.1 (pair.2.text (Layout.ofIndent g.jsonIndent))).run c with
              | mk result d =>
                  rw [hwrite] at hissues
                  cases result with
                  | ok => exact hissues
                  | error e => exact hissues

theorem buildArtifact_kinds (hregistry : g.registry.BuiltIn) (hflow : w.manager.workflow = some flow)
    (kind : ArtifactKind) (b : Bench) :
    ∃ more, ((g.buildArtifact w kind).run b).2.issues = b.issues ++ more ∧ ∀ i ∈ more, i.kind ≠ .renderFailed := by
  have hdrafted := (draft_paired hregistry ((g.terms_drafts w).counterparts hflow)
    (fun f => ⟨rfl, .onDocument f⟩) rfl kind).kinds (fun _ _ _ b h => step_issues h.2 b) b
  rw [buildArtifact_issues]
  exact hdrafted

/-- A document that is not built for a snippet that cannot be rendered: the error names the file of a snippet. -/
theorem buildArtifact_names (hregistry : g.registry.BuiltIn) (hflow : w.manager.workflow = some flow)
    {kind : ArtifactKind} {b c : Bench} {e : RenderError}
    (hrun : (g.buildArtifact w kind).run b = (.error (.render e), c)) :
    ∃ s ∈ w.manager.snippets, e.templateFile = s.templateFile := by
  refine (buildArtifact_composed hregistry hflow kind).fault
    (P := fun f _ => ∀ e, f = .render e → ∃ s ∈ w.manager.snippets, e.templateFile = s.templateFile) ?_ ?_ hrun e rfl
  · rintro item snippet b c f hsnippet _ hrun e rfl
    exact ⟨snippet, hsnippet, Build.renderJson_names hrun⟩
  · rintro β y b c f hy hrun e rfl
    cases hy with
    | onDocument f => cases hrun
    | write kind output houtput text =>
        rw [writeDocument_run] at hrun
        split at hrun
        · cases hrun
        · cases hrun
    | prepare =>
        rw [prepareDirectory_run] at hrun
        split at hrun
        · cases hrun
        · split at hrun
          · cases hrun
          · cases hrun

end Generator

namespace Attempt

/-- The issue of a document that needs a snippet that cannot be rendered. -/
def failure (a : Attempt) (e : RenderError) : Issue :=
  ⟨.renderFailed, a.workshop.manager.name, e.message, some e.templateFile⟩

/-- What a failed rendering does to an attempt: nothing is written, and of the issues that the attempt records exactly
one says so, with the file of a snippet. An attempt without a failed rendering records no such issue. -/
structure FailsAlone (g : Generator) (a : Attempt) : Prop where
  failures : (a.recorded g).filter (·.kind = .renderFailed) =
    match ((g.buildArtifact a.workshop a.kind).run a.before).1 with
    | .error (.render e) => [a.failure e]
    | _ => []
  named : ∀ e, ((g.buildArtifact a.workshop a.kind).run a.before).1 = .error (.render e) →
    a.written g = none ∧ ∃ s ∈ a.workshop.manager.snippets, e.templateFile = s.templateFile

theorem failsAlone {g : Generator} (hregistry : g.registry.BuiltIn) {a : Attempt} {flow : Workflow}
    (hflow : a.workshop.manager.workflow = some flow) : a.FailsAlone g := by
  obtain ⟨more, hmore, hkinds⟩ := Generator.buildArtifact_kinds hregistry hflow a.kind a.before
  have hothers : more.filter (·.kind = .renderFailed) = [] := by
    rw [List.filter_eq_nil_iff]
    intro i hi
    simpa using hkinds i hi
  have houtcome : a.outcome g = _ := Build.recovering_run (g.buildArtifact a.workshop a.kind) a.before
  cases hrun : (g.buildArtifact a.workshop a.kind).run a.before with
  | mk result c =>
      rw [hrun] at houtcome hmore
      -- Whatever else the building comes to, the attempt comes to the same.
      have hother (h : a.outcome g = (result, c)) (hresult : ∀ e, result ≠ .error (.render e)) : a.FailsAlone g := by
        have hrecorded : a.recorded g = more := by
          rw [recorded, h]
          dsimp only at hmore ⊢
          rw [hmore, List.drop_left]
        constructor
        · rw [hrecorded, hothers, hrun]
          split
          · next e he => exact absurd he (hresult e)
          · rfl
        · intro e he
          rw [hrun] at he
          exact absurd he (hresult e)
      cases result with
      | ok written => exact hother houtcome fun _ h => by cases h
      | error f =>
          cases f with
          | template e => exact hother houtcome fun _ h => by cases h
          | disk e => exact hother houtcome fun _ h => by cases h
          | render e =>
              have hrecorded : a.recorded g = more ++ [a.failure e] := by
                rw [recorded, houtcome]
                change (c.issues ++ [a.failure e]).drop a.before.issues.length = _
                dsimp only at hmore
                rw [hmore, List.append_assoc, List.drop_left]
              constructor
              · rw [hrecorded, List.filter_append, hothers, hrun]
                rfl
              · intro e' he
                rw [hrun] at he
                cases he
                refine ⟨?_, Generator.buildArtifact_names hregistry hflow hrun⟩
                rw [written, houtcome]
                rfl

end Attempt

/-- The building of a process manager in a run, with the documents that were attempted for it. -/
structure Building where
  manager : ProcessManager
  attempts : List Attempt

namespace Building

/-- What is attempted for a process manager. -/
def documents (b : Building) : ProcessManager × List (Workshop × ArtifactKind) :=
  (b.manager, b.attempts.map Attempt.document)

/-- The issues recorded meanwhile, in their order. -/
def issues (g : Generator) (b : Building) : List Issue :=
  Generator.ownIssues b.manager ++ b.attempts.flatMap (·.recorded g)

/-- The documents written meanwhile, in their order. -/
def written (g : Generator) (b : Building) : List Path := b.attempts.filterMap (·.written g)

end Building

namespace Generator

/-- The buildings of a run that is not cancelled. -/
def buildings (g : Generator) : List Turn → Progress → List Building
  | [], _ => []
  | .idle application :: rest, p => buildings g rest (p.passedOver application)
  | .build application index m :: rest, p =>
    ⟨m, g.managerAttempts m (p.bench application m)⟩ :: buildings g rest ((g.runManager application index m).run p).2

variable {g : Generator}

/-- A run to the end of all turns, building by building. -/
theorem buildings_of_ok (hregistry : g.registry.BuiltIn) {ts : List Turn} {p q : Progress}
    (hrun : (g.runTurns none ts).run p = (.ok (), q)) :
    (g.buildings ts p).map Building.documents = (ts.flatMap Turn.managers).map (fun m => (m, g.expected m)) ∧
      q.issues = p.issues ++ (g.buildings ts p).flatMap (·.issues g) ∧
      q.written = p.written ++ (g.buildings ts p).flatMap (·.written g) := by
  induction ts generalizing p with
  | nil =>
      cases hrun
      exact ⟨rfl, (List.append_nil _).symm, (List.append_nil _).symm⟩
  | cons t rest ih =>
      rw [runTurns_cons_run] at hrun
      cases t with
      | idle application => exact ih hrun
      | build application index m =>
          rw [runTurn_build_run] at hrun
          rw [buildings, List.flatMap_cons, List.flatMap_cons, List.flatMap_cons, List.map_cons]
          rw [runManager_run] at hrun ⊢
          cases hbuild : (g.buildManager m).run (p.bench application m) with
          | mk result c =>
              rw [hbuild] at hrun
              cases result with
              | error f => cases hrun
              | ok written =>
                  obtain ⟨hdocuments, hissues, hwritten⟩ := ih hrun
                  obtain ⟨hexpected, _⟩ := managerAttempts_of_ok hregistry hbuild
                  obtain ⟨hown, hrecorded⟩ := managerAttempts_account hregistry hbuild
                  refine ⟨?_, ?_, ?_⟩
                  · rw [hdocuments, Building.documents, hexpected]
                    rfl
                  · rw [hissues, Building.issues, ← List.append_assoc]
                    change c.issues ++ _ = _
                    rw [hrecorded]
                    rfl
                  · rw [hwritten, Building.written, ← List.append_assoc, ← hown]
                    rfl

/-- Documents are attempted only for process managers that have a workflow. -/
theorem exists_workflow_of_mem_attempts {managers : List ProcessManager} {bs : List Building}
    (h : bs.map Building.documents = managers.map fun m => (m, g.expected m)) {b : Building} (hb : b ∈ bs) {a : Attempt}
    (ha : a ∈ b.attempts) : ∃ flow, a.workshop.manager.workflow = some flow := by
  have hmem := List.mem_map_of_mem (f := Building.documents) hb
  rw [h] at hmem
  obtain ⟨m, _, heq⟩ := List.mem_map.mp hmem
  have hdocument : a.document ∈ b.attempts.map Attempt.document := List.mem_map_of_mem ha
  have hexpected : g.expected m = b.attempts.map Attempt.document := (Prod.mk.inj heq).2
  rw [← hexpected] at hdocument
  exact exists_workflow_of_mem_expected hdocument

end Generator

/-- A run that is not cancelled, with a target that takes the documents, and without a fault. All process managers are
reported, in the order of the model. For each that has what they need, the documents of all kinds are attempted in their
order. The issues and the files of the report are those of the attempts and of the missing workflows, in the order in
which they came about, and a failed rendering adds one issue and no file. The run fails exactly if an issue is an error,
with the errors among all issues and with the whole report. -/
theorem errors_are_collected_and_raised (g : Generator) (model : MigrationModel) (disk : Disk) (journal : Journal)
    (checks : Nat) (hregistry : g.registry.BuiltIn) (htarget : model.target.hostsStandard = true)
    (hfaultless : ∀ f, ((g.generate none model).run (Progress.start disk journal checks)).1 ≠ .error (.fault f)) :
    let start := Progress.start disk journal checks
    let final := (g.generate none model).run start
    let report := final.2.report
    let buildings := g.buildings (Generator.turns 0 model.applications) start
    report.workflows = model.managers.map (·.name) ∧
      buildings.map Building.documents = model.managers.map (fun m => (m, g.expected m)) ∧
      report.issues = buildings.flatMap (·.issues g) ∧ report.written = buildings.flatMap (·.written g) ∧
      (∀ b ∈ buildings, ∀ a ∈ b.attempts, a.FailsAlone g) ∧
      ((∃ r, final.1 = .error (.failed r)) ↔ ∃ i ∈ report.issues, i.severity = .error) ∧
      (∀ r, final.1 = .error (.failed r) → r = report ∧ r.errors = report.issues.filter (·.severity = .error)) ∧
      ((∀ r, final.1 ≠ .error (.failed r)) → final.1 = .ok report) := by
  intro start final report buildings
  obtain ⟨q, hrun⟩ := Generator.exists_run_of_faultless hregistry htarget hfaultless
  have hfinal : final = _ := g.generate_run none model start
  rw [if_pos htarget, hrun] at hfinal
  have hreport : report = q.report := by
    change final.2.report = _
    rw [hfinal]
    rfl
  have hreports : Generator.Reports final := by
    rw [hfinal]
    rfl
  obtain ⟨_, _, _, _, hworkflows⟩ := Generator.history_of_ok hregistry hrun
  obtain ⟨hdocuments, hissues, hwritten⟩ := Generator.buildings_of_ok hregistry hrun
  rw [Generator.managers_turns] at hworkflows hdocuments
  have herrors : report.errors = report.issues.filter (·.severity = .error) :=
    List.filter_congr fun i _ => beq_eq_decide _ _
  refine ⟨?_, hdocuments, ?_, ?_, ?_, ?_, ?_, ?_⟩
  · rw [hreport]
    exact hworkflows
  · rw [hreport]
    exact hissues
  · rw [hreport]
    exact hwritten
  · intro b hb a ha
    obtain ⟨flow, hflow⟩ := Generator.exists_workflow_of_mem_attempts hdocuments hb ha
    exact Attempt.failsAlone hregistry hflow
  · rw [Generator.exists_failed_iff hreports]
    change report.errors ≠ [] ↔ _
    rw [herrors, ne_eq, List.filter_eq_nil_iff]
    simp
  · intro r hr
    obtain ⟨_, rfl⟩ := (Generator.reports_failed_iff hreports r).mp hr
    exact ⟨rfl, herrors⟩
  · intro hnot
    rw [hreports]
    split
    · rfl
    · next hfailed =>
        rw [Bool.not_eq_true] at hfailed
        exact absurd ((Generator.reports_failed_iff hreports _).mpr ⟨hfailed, rfl⟩) (hnot _)

/-- A process manager with a skeleton that is no JSON and one that is fine, and another one that has no workflow. -/
def mixedModel : MigrationModel :=
  smallModel
    [smallManager "a" "flow" [(.connections, "conn.json", none, "c.json"), (.appSettings, "app.json", none, "a.json")],
      { smallManager "b" "flow" [(.connections, "app.json", none, "b.json")] with workflow := none }]

/-- The failed rendering and the missing workflow are both reported, and the document after the failure is written. -/
theorem errors_are_collected_and_raised_mixed :
    let start := Progress.start invalidDisk .empty 0
    let final := (smallGenerator.generate none mixedModel).run start
    let report := final.2.report
    let buildings := smallGenerator.buildings (Generator.turns 0 mixedModel.applications) start
    (∀ f, final.1 ≠ .error (.fault f)) ∧ report.written = [⟨0, ["generated", "a.json"]⟩] ∧
      report.issues.map (fun i => (i.kind, i.path)) =
        [(.renderFailed, some "conn.json"), (.missingWorkflowModel, none)] ∧
      report.workflows = ["a", "b"] ∧
      buildings.map Building.documents = mixedModel.managers.map (fun m => (m, smallGenerator.expected m)) ∧
      (∀ b ∈ buildings, ∀ a ∈ b.attempts, a.FailsAlone smallGenerator) ∧
      ∃ r, final.1 = .error (.failed r) ∧ r = report ∧ r.errors = report.issues.filter (·.severity = .error) := by
  intro start final report buildings
  have hrun : (report.written = [⟨0, ["generated", "a.json"]⟩] ∧
        report.issues.map (fun i => (i.kind, i.path)) =
          [(.renderFailed, some "conn.json"), (.missingWorkflowModel, none)]) ∧
      (Generator.fault? final.1).isNone := by
    decide +kernel
  obtain ⟨⟨hwritten, hissues⟩, hreported⟩ := hrun
  have hfaultless : ∀ f, final.1 ≠ .error (.fault f) := Generator.fault?_isNone_iff.mp hreported
  obtain ⟨hworkflows, hdocuments, _, _, halone, hraises, hraised, _⟩ :=
    errors_are_collected_and_raised smallGenerator mixedModel invalidDisk .empty 0 Registry.standard_builtIn rfl
      hfaultless
  have herror : ∃ i ∈ report.issues, i.severity = .error := by
    have hmem : (IssueKind.renderFailed, some "conn.json") ∈ report.issues.map (fun i => (i.kind, i.path)) := by
      rw [hissues]
      exact List.mem_cons_self
    obtain ⟨i, hi, heq⟩ := List.mem_map.mp hmem
    have hkind : i.kind = .renderFailed := (Prod.mk.inj heq).1
    exact ⟨i, hi, by rw [Issue.severity, hkind]; rfl⟩
  obtain ⟨r, hr⟩ := hraises.mpr herror
  exact ⟨hfaultless, hwritten, hissues, hworkflows, hdocuments, halone, r, hr, hraised r hr⟩

end WorkflowForge
