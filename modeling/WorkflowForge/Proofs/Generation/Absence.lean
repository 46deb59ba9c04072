import WorkflowForge.Proofs.Generation.History

/-!
Documents that are not written. Of a document whose skeleton is registered, an attempt that ends well either writes it,
or records an issue that says why not. The one exception is a skeleton that renders to the null value: this is taken for
a file that is missing, after the file was found, and the document is dropped without a word.
-/

namespace WorkflowForge

/-- The kinds of issues that say why a document is not written. -/
def IssueKind.ofAbsence : List IssueKind :=
  [.missingOutputPath, .missingSnippet, .structuralPathNotFound, .renderFailed]

/-- Issues were added, and among them one that says why a document of a workflow is not written. -/
def Issue.Explains (workflow : String) (old new : List Issue) : Prop :=
  ∃ more, new = old ++ more ∧ ∃ i ∈ more, i.kind ∈ IssueKind.ofAbsence ∧ i.workflow = workflow

theorem Issue.Added.explains {workflow : String} {old between new : List Issue} (h : Added workflow old between)
    (hlast : Explains workflow between new) : Explains workflow old new := by
  obtain ⟨first, rfl, _⟩ := h
  obtain ⟨second, rfl, i, hi, hkind, hworkflow⟩ := hlast
  exact ⟨first ++ second, List.append_assoc _ _ _, i, List.mem_append_right _ hi, hkind, hworkflow⟩

theorem Build.recorded_explains {w : Workshop} {kind : IssueKind} (hkind : kind ∈ IssueKind.ofAbsence)
    (message : String) (path : Option String) (b : Bench) :
    Issue.Explains w.manager.name b.issues (recorded ⟨kind, w.manager.name, message, path⟩ b).issues :=
  ⟨[⟨kind, w.manager.name, message, path⟩], rfl, _, List.mem_singleton_self _, hkind, rfl⟩

namespace Generator

variable {g : Generator} {w : Workshop}

/-- The rendering of a skeleton gives the null value. -/
def RendersNull (w : Workshop) (snippet : Snippet) (b : Bench) : Prop :=
  ∃ source text, Snippet.findFile w.templatePaths b.disk snippet.templateFile = some source ∧
    Build.textOf w (Build.modelItem w) snippet source (Build.numbered (Build.modelItem w) b) = .ok text ∧
    Json.read text = .ok .null

theorem parseRendered_eq_ok_none_iff (snippet : Snippet) (text : String) :
    Build.parseRendered snippet text = .ok none ↔ Json.read text = .ok .null := by
  unfold Build.parseRendered
  split
  · next h => simp [h]
  · next v hv h => simpa [h] using hv
  · next e h => simp [h]

/-- A rendering that gives nothing is recorded, or gives the null value. -/
theorem renderJson_none {snippet : Snippet} {b c : Bench}
    (hrun : (Build.renderJson w (Build.modelItem w) snippet true).run b = (.ok none, c)) :
    Issue.Explains w.manager.name b.issues c.issues ∨ RendersNull w snippet b := by
  rw [Build.renderJson_run] at hrun
  split at hrun
  · cases hrun
    exact .inl (Build.recorded_explains (by decide) _ _ _)
  · next source hfile =>
      split at hrun
      · cases hrun
      · next text htext =>
          have hnull (h : Build.parseRendered snippet text = .ok none) : RendersNull w snippet b :=
            ⟨source, text, hfile, htext, (parseRendered_eq_ok_none_iff snippet text).mp h⟩
          split at hrun
          · exact .inr (hnull (Prod.mk.inj hrun).1)
          · split at hrun
            · exact .inr (hnull (Prod.mk.inj hrun).1)
            · cases hrun

/-- A rendering that gives the null value records nothing; if it fails, then at the disk. -/
theorem renderJson_of_rendersNull {snippet : Snippet} {b : Bench} (hnull : RendersNull w snippet b) :
    (∃ c, (Build.renderJson w (Build.modelItem w) snippet true).run b = (.ok none, c) ∧ c.issues = b.issues) ∨
      ∃ e c, (Build.renderJson w (Build.modelItem w) snippet true).run b = (.error (.disk e), c) := by
  obtain ⟨source, text, hfile, htext, hread⟩ := hnull
  rw [Build.renderJson_run, hfile]
  dsimp only
  rw [htext]
  dsimp only
  rw [(parseRendered_eq_ok_none_iff snippet text).mpr hread]
  split
  · exact .inl ⟨_, rfl, rfl⟩
  · split
    · exact .inl ⟨_, rfl, rfl⟩
    · exact .inr ⟨_, _, rfl⟩

theorem assembleDefinition_none {skeleton : Json} {b c : Bench}
    (hrun : (g.assembleDefinition w skeleton).run b = (.ok none, c)) :
    Issue.Explains w.manager.name b.issues c.issues := by
  obtain ⟨_, d, hset, hrun⟩ := Build.run_bind_ok hrun
  cases hset
  obtain ⟨e, f, hget, hrun⟩ := Build.run_bind_ok hrun
  cases hget
  split at hrun
  · cases hrun
    exact Build.recorded_explains (by decide) _ _ _
  · -- The steps of the assembly end with the document.
    obtain ⟨_, _, _, hrun⟩ := Build.run_bind_ok hrun
    obtain ⟨_, _, _, hrun⟩ := Build.run_bind_ok hrun
    obtain ⟨_, _, _, hrun⟩ := Build.run_bind_ok hrun
    split at hrun
    · obtain ⟨_, _, _, hrun⟩ := Build.run_bind_ok hrun
      obtain ⟨_, _, _, hrun⟩ := Build.run_bind_ok hrun
      obtain ⟨_, _, _, hrun⟩ := Build.run_bind_ok hrun
      obtain ⟨_, _, _, hrun⟩ := Build.run_bind_ok hrun
      cases hrun
    · obtain ⟨_, _, _, hrun⟩ := Build.run_bind_ok hrun
      obtain ⟨_, _, _, hrun⟩ := Build.run_bind_ok hrun
      obtain ⟨_, _, _, hrun⟩ := Build.run_bind_ok hrun
      cases hrun

theorem populate_none {kind : ArtifactKind} {snippet : Snippet} {skeleton : Json} {b c : Bench}
    (hrun : (g.populate w kind snippet skeleton).run b = (.ok none, c)) :
    Issue.Explains w.manager.name b.issues c.issues := by
  unfold populate at hrun
  split at hrun
  · exact assembleDefinition_none hrun
  · split at hrun
    · split at hrun
      · obtain ⟨_, _, _, hrun⟩ := Build.run_bind_ok hrun
        cases hrun
      · cases hrun
        exact Build.recorded_explains (by decide) _ _ _
    · cases hrun

theorem draft_none {kind : ArtifactKind} {snippet : Snippet}
    (hsnippet : w.manager.findSnippet (Snippet.key kind.elementKind none) = some snippet) {b c : Bench}
    (hrun : (g.draft w kind).run b = (.ok none, c)) :
    Issue.Explains w.manager.name b.issues c.issues ∨
      ((outputOf? w kind).isSome = true ∧ RendersNull w snippet b) := by
  cases houtput : outputOf? w kind with
  | none =>
      simp only [draft, hsnippet, houtput] at hrun
      cases hrun
      exact .inl (Build.recorded_explains (by decide) _ _ _)
  | some output =>
      rw [draft_run hsnippet houtput] at hrun
      split at hrun
      · cases hrun
      · next d hrender =>
          cases hrun
          rcases renderJson_none hrender with hexplains | hnull
          · exact .inl hexplains
          · exact .inr ⟨rfl, hnull⟩
      · next skeleton d hrender =>
          have hadded := Build.renderJson_added w (Build.modelItem w) snippet b
          rw [hrender] at hadded
          split at hrun
          · cases hrun
          · next populated e hpopulate =>
              cases populated with
              | some document => cases hrun
              | none =>
                  cases hrun
                  exact .inl (hadded.explains (populate_none hpopulate))

/-- The building of a document that gives nothing records why, or the skeleton rendered to null. -/
theorem buildArtifact_none {kind : ArtifactKind} {snippet : Snippet}
    (hsnippet : w.manager.findSnippet (Snippet.key kind.elementKind none) = some snippet) {b c : Bench}
    (hrun : (g.buildArtifact w kind).run b = (.ok none, c)) :
    Issue.Explains w.manager.name b.issues c.issues ∨
      ((outputOf? w kind).isSome = true ∧ RendersNull w snippet b) := by
  rw [buildArtifact_run] at hrun
  split at hrun
  · cases hrun
  · next d hdraft =>
      cases hrun
      exact draft_none hsnippet hdraft
  · split at hrun
    · cases hrun
    · cases hrun

end Generator

namespace Attempt

variable {g : Generator} {a : Attempt} {snippet : Snippet}

/-- The skeleton that is registered for the document. -/
def skeleton? (a : Attempt) : Option Snippet := a.workshop.manager.findSnippet (Snippet.key a.kind.elementKind none)

/-- The document was written to its destination, and is reported. -/
def Written (g : Generator) (a : Attempt) (report : Report) : Prop :=
  ∃ output after, Generator.outputOf? a.workshop a.kind = some output ∧
    a.outcome g = (.ok (some (g.destination output)), after) ∧ g.destination output ∈ report.written

/-- An issue of the process manager was recorded that says why the document is not written, and is reported. -/
def Explained (g : Generator) (a : Attempt) (report : Report) : Prop :=
  ∃ result after more i, a.outcome g = (.ok result, after) ∧ after.issues = a.before.issues ++ more ∧ i ∈ more ∧
    i.kind ∈ IssueKind.ofAbsence ∧ i.workflow = a.workshop.manager.name ∧ i ∈ report.issues

/-- The document has a destination, and its skeleton renders to the null value. -/
def IsNull (a : Attempt) (snippet : Snippet) : Prop :=
  (Generator.outputOf? a.workshop a.kind).isSome = true ∧ Generator.RendersNull a.workshop snippet a.before

theorem outcome_eq (g : Generator) (a : Attempt) :
    a.outcome g = match (g.buildArtifact a.workshop a.kind).run a.before with
      | (.error (.render e), c) =>
        (.ok none, Build.recorded ⟨.renderFailed, a.workshop.manager.name, e.message, some e.templateFile⟩ c)
      | result => result :=
  Build.recovering_run (g.buildArtifact a.workshop a.kind) a.before

/-- An attempt that ends well writes the document, or records why not, or its skeleton renders to null. -/
theorem outcome_cases (hregistry : g.registry.BuiltIn) {flow : Workflow}
    (hflow : a.workshop.manager.workflow = some flow) (hsnippet : a.skeleton? = some snippet) {result : Option Path}
    {after : Bench} (houtcome : a.outcome g = (.ok result, after)) :
    (∃ output, Generator.outputOf? a.workshop a.kind = some output ∧ result = some (g.destination output)) ∨
      Issue.Explains a.workshop.manager.name a.before.issues after.issues ∨ a.IsNull snippet := by
  rw [outcome_eq] at houtcome
  split at houtcome
  · next e c hrun =>
      cases houtcome
      have hadded := Generator.terms_added (Generator.buildArtifact_composed hregistry hflow a.kind) a.before
      rw [hrun] at hadded
      exact .inr (.inl (hadded.explains (Build.recorded_explains (by decide) _ _ _)))
  · cases result with
    | none => exact .inr (Generator.buildArtifact_none hsnippet houtcome)
    | some target =>
        obtain ⟨document, d, hdraft, _⟩ := Generator.buildArtifact_eq_some houtcome
        obtain ⟨output, houtput, htarget⟩ :=
          (Generator.draft_composed (g.terms_drafts a.workshop) hregistry hflow a.kind).post hdraft target document rfl
        exact .inl ⟨output, houtput, by rw [htarget]⟩

/-- An attempt whose skeleton renders to null writes nothing and records nothing. -/
theorem outcome_of_isNull (hsnippet : a.skeleton? = some snippet) (hnull : a.IsNull snippet) {result : Option Path}
    {after : Bench} (houtcome : a.outcome g = (.ok result, after)) :
    result = none ∧ after.issues = a.before.issues := by
  obtain ⟨hsome, hrenders⟩ := hnull
  obtain ⟨output, houtput⟩ := Option.isSome_iff_exists.mp hsome
  rw [outcome_eq, Generator.buildArtifact_run, Generator.draft_run hsnippet houtput] at houtcome
  rcases Generator.renderJson_of_rendersNull hrenders with ⟨c, hrun, hissues⟩ | ⟨e, c, hrun⟩
  · rw [hrun] at houtcome
    cases houtcome
    exact ⟨rfl, hissues⟩
  · rw [hrun] at houtcome
    cases houtcome

/-- An attempt whose end is reported wrote the document or recorded why not, unless its skeleton renders to null. -/
theorem appears_iff (hregistry : g.registry.BuiltIn) {flow : Workflow}
    (hflow : a.workshop.manager.workflow = some flow) (hsnippet : a.skeleton? = some snippet) {report : Report}
    (hends : a.Ends g report.written report.issues) :
    (a.Written g report ∨ a.Explained g report) ↔ ¬ a.IsNull snippet := by
  obtain ⟨result, after, houtcome, hwritten, hissues⟩ := hends
  constructor
  · intro happears hnull
    obtain ⟨rfl, hsame⟩ := outcome_of_isNull hsnippet hnull houtcome
    rcases happears with ⟨output, after', _, houtcome', _⟩ | ⟨result', after', more, i, houtcome', hmore, hi, _⟩
    · rw [houtcome] at houtcome'
      cases houtcome'
    · rw [houtcome] at houtcome'
      cases houtcome'
      rw [hsame, List.self_eq_append_right] at hmore
      rw [hmore] at hi
      cases hi
  · intro hnot
    rcases outcome_cases hregistry hflow hsnippet houtcome with
      ⟨output, houtput, rfl⟩ | ⟨more, hmore, i, hi, hkind, hworkflow⟩ | hnull
    · exact .inl ⟨output, after, houtput, houtcome, hwritten _ rfl⟩
    · refine .inr ⟨result, after, more, i, houtcome, hmore, hi, hkind, hworkflow, hissues.subset ?_⟩
      rw [hmore]
      exact List.mem_append_right _ hi
    · exact absurd hnull hnot

end Attempt

/-- In a run that ends with its report, the documents of all kinds are attempted for every process manager that has what
they need. Each of them whose skeleton is registered is reported as written, or an issue is reported that says why it is
not, except exactly for those whose skeleton renders to the null value. -/
theorem documents_appear_or_are_explained (g : Generator) (cancel : Option (Nat → Bool)) (model : MigrationModel)
    (disk : Disk) (journal : Journal) (checks : Nat) (report : Report) (hregistry : g.registry.BuiltIn)
    (htarget : model.target.hostsStandard = true)
    (hreport : ((g.generate cancel model).run (Progress.start disk journal checks)).1 = .ok report ∨
      ((g.generate cancel model).run (Progress.start disk journal checks)).1 = .error (.failed report)) :
    let history := g.history cancel (Generator.turns 0 model.applications) (Progress.start disk journal checks)
    history.map Attempt.document = model.managers.flatMap g.expected ∧
      ∀ a ∈ history, ∀ snippet, a.skeleton? = some snippet →
        ((a.Written g report ∨ a.Explained g report) ↔ ¬ a.IsNull snippet) := by
  intro history
  obtain ⟨q, hrun, rfl⟩ := Generator.exists_run_of_report htarget hreport
  obtain ⟨hdocuments, hends, _⟩ := Generator.history_of_ok hregistry hrun
  rw [Generator.managers_turns] at hdocuments
  refine ⟨hdocuments, ?_⟩
  intro a ha snippet hsnippet
  have hmem : a.document ∈ model.managers.flatMap g.expected := by
    have hdocument := List.mem_map_of_mem (f := Attempt.document) ha
    rwa [hdocuments] at hdocument
  obtain ⟨m, _, hexpected⟩ := List.mem_flatMap.mp hmem
  obtain ⟨flow, hflow⟩ := Generator.exists_workflow_of_mem_expected hexpected
  exact Attempt.appears_iff hregistry hflow hsnippet (hends a ha)

/-- Skeletons of which neither is null. -/
def listDisk : Disk := smallDisk [("conn.json", .text "[]"), ("app.json", .text "\x7b\x7d")]

theorem documents_appear_or_are_explained_list :
    ((smallGenerator.generate none (settingsModel "conn.json")).run (Progress.start listDisk .empty 0)).2.written =
        [⟨0, ["generated", "c.json"]⟩, ⟨0, ["generated", "a.json"]⟩] ∧
      let report := ((smallGenerator.generate none (settingsModel "conn.json")).run
        (Progress.start listDisk .empty 0)).2.report
      let history := smallGenerator.history none (Generator.turns 0 (settingsModel "conn.json").applications)
        (Progress.start listDisk .empty 0)
      history.map Attempt.document = (settingsModel "conn.json").managers.flatMap smallGenerator.expected ∧
        ∀ a ∈ history, ∀ snippet, a.skeleton? = some snippet →
          ((a.Written smallGenerator report ∨ a.Explained smallGenerator report) ↔ ¬ a.IsNull snippet) := by
  have hrun : ((smallGenerator.generate none (settingsModel "conn.json")).run
        (Progress.start listDisk .empty 0)).2.written =
      [⟨0, ["generated", "c.json"]⟩, ⟨0, ["generated", "a.json"]⟩] ∧
    ((smallGenerator.generate none (settingsModel "conn.json")).run (Progress.start listDisk .empty 0)).1 =
      .ok ((smallGenerator.generate none (settingsModel "conn.json")).run
        (Progress.start listDisk .empty 0)).2.report := by
    decide +kernel
  exact ⟨hrun.1, documents_appear_or_are_explained smallGenerator none (settingsModel "conn.json") listDisk .empty 0 _
    Registry.standard_builtIn rfl (.inl hrun.2)⟩

/-- A skeleton that is null is dropped: it is registered, it has a destination and its file is there, and the run ends
well without the document and without an issue. -/
theorem null_skeleton_disappears :
    (smallRun (settingsModel "conn.json") [("conn.json", .text "null"), ("app.json", .text "\x7b\x7d")]).1 =
      .ok ⟨[⟨0, ["generated", "a.json"]⟩], [], ["pm"], false⟩ := by
  decide +kernel

end WorkflowForge
