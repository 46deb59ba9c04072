import WorkflowForge.Proofs.Generation.History

/-!
How a run ends that is not cancelled. A snippet that cannot be rendered or parsed costs the document it was needed for
and nothing else. What stops a run is one of three things: the file of a snippet holds no text, a template does with its
values what they do not allow, or the disk refuses a directory or a file. In every other case all process managers are
built, the documents of all kinds are attempted for each, and the run ends with its report.
-/

namespace WorkflowForge

namespace Generator

/-- Why the building of a process manager stops a run: the fault, and the disk that is left. -/
inductive Cause (g : Generator) (m : ProcessManager) : Fault → Disk → Prop
  | undecodable {snippet : Snippet} {source : Path} {disk : Disk} (hsnippet : snippet ∈ m.snippets)
      (hfile : Snippet.findFile g.templatePaths disk snippet.templateFile = some source)
      (hread : disk.readText source = .error .undecodable) : Cause g m (.disk .undecodable) disk
  | evaluation {snippet : Snippet} {source : Path} {disk : Disk} {resource : Option ResourceTemplate}
      {stamps : Stamps} {item : Option Item} {raw : String} {failure : Template.Failure}
      (hsnippet : snippet ∈ m.snippets)
      (hfile : Snippet.findFile g.templatePaths disk snippet.templateFile = some source)
      (htemplate : Snippet.isTemplate g.suffixes source = true) (hread : disk.readText source = .ok raw)
      (hrender : Template.render raw ((g.workshop m resource).environment stamps snippet item) = .error failure)
      (hother : ∀ message, failure ≠ .template message) : Cause g m (.template failure) disk
  | directory {before disk : Disk} {e : DiskError}
      (h : before.ensureDirectory g.generationPath = (.error e, disk)) : Cause g m (.disk e) disk
  | document {before disk : Disk} {e : DiskError} {resource : ResourceTemplate} {kind : ArtifactKind} {output : String}
      {text : String} (hresource : m.findResource Snippet.standardFamily = some resource)
      (houtput : outputOf? (g.workshop m (some resource)) kind = some output)
      (h : before.writeText (g.destination output) text = (.error e, disk)) : Cause g m (.disk e) disk
  | inspection {before disk : Disk} {e : DiskError} {snippet : Snippet} {item : Option Item} {source : Path} {id : Int}
      {templated : Bool} {text : String} (hsnippet : snippet ∈ m.snippets) (houtput : snippet.outputPath.getD "" ≠ "")
      (h : Build.keep templated source (Build.inspectionPath (g.workshop m none) snippet item source id templated) text
        before = (.error e, disk)) : Cause g m (.disk e) disk

end Generator

namespace Build

/-- What a build fails with is what one of its steps fails with. -/
theorem Composed.fault {P : Fault → Disk → Prop} {w : Workshop} {t : Terms} {within : List String} {α : Type}
    {x : Build α} {post : α → Prop} (hx : Composed w t within x post)
    (hrender : ∀ item snippet b c f, snippet ∈ w.manager.snippets → t.renders item →
      (Build.renderJson w item snippet true).run b = (.error f, c) → P f c.disk)
    (hfurther : ∀ (β : Type) (y : Build β) b c f, t.further β y → y.run b = (.error f, c) → P f c.disk)
    {b c : Bench} {f : Fault} (hrun : x.run b = (.error f, c)) : P f c.disk := by
  induction hx generalizing b c with
  | pure _ => cases hrun
  | @bind _ _ x g _ _ _ _ ihx ihf =>
      rename_i hx hf
      rw [run_bind] at hrun
      cases hfirst : x.run b with
      | mk r d =>
          rw [hfirst] at hrun
          cases r with
          | ok a => exact ihf a (hx.post hfirst) hrun
          | error e =>
              cases hrun
              exact ihx hfirst
  | document => cases hrun
  | log level logger name fields hname => cases hrun
  | record kind message path => cases hrun
  | add s hwithin name body => cases hrun
  | renderJson item snippet hsnippet hitem => exact hrender item snippet b c f hsnippet hitem hrun
  | recovering _ ih =>
      rw [recovering_run] at hrun
      split at hrun
      · cases hrun
      · exact ih hrun
  | further hstep => exact hfurther _ _ b c f hstep hrun

end Build

namespace Generator

variable {g : Generator} {m : ProcessManager} {resource : ResourceTemplate}

theorem renderJson_fault {item : Option Item} {snippet : Snippet} {b c : Bench} {f : Fault}
    (hsnippet : snippet ∈ m.snippets)
    (hrun : (Build.renderJson (g.workshop m (some resource)) item snippet true).run b = (.error f, c)) :
    (∃ e, f = .render e) ∨ g.Cause m f c.disk := by
  rw [Build.renderJson_run] at hrun
  split at hrun
  · cases hrun
  · next source hfile =>
      split at hrun
      · next failure htext =>
          rw [Prod.mk.injEq, Except.error.injEq] at hrun
          obtain ⟨rfl, rfl⟩ := hrun
          unfold Build.textOf at htext
          split at htext
          · next e hread =>
              cases htext
              cases Disk.readText_of_isFile (Snippet.findFile_eq_some hfile).1 hread
              exact .inr (.undecodable hsnippet hfile hread)
          · next raw hread =>
              split at htext
              · next htemplate =>
                  unfold renderText at htext
                  split at htext
                  · cases htext
                  · cases htext
                    exact .inl ⟨_, rfl⟩
                  · next failure hother hrender =>
                      cases htext
                      exact .inr (.evaluation hsnippet hfile htemplate hread hrender hother)
              · cases htext
      · next text htext =>
          have hparse (h : Build.parseRendered snippet text = .error f) : ∃ e, f = .render e := by
            unfold Build.parseRendered at h
            split at h
            · cases h
            · cases h
            · cases h
              exact ⟨_, rfl⟩
          split at hrun
          · rw [Prod.mk.injEq] at hrun
            exact .inl (hparse hrun.1)
          · next houtput =>
              split at hrun
              · rw [Prod.mk.injEq] at hrun
                exact .inl (hparse hrun.1)
              · next e disk hkeep =>
                  rw [Prod.mk.injEq, Except.error.injEq] at hrun
                  obtain ⟨rfl, rfl⟩ := hrun
                  exact .inr (.inspection hsnippet houtput hkeep)

theorem prepareDirectory_fault {b c : Bench} {f : Fault} (hrun : g.prepareDirectory.run b = (.error f, c)) :
    g.Cause m f c.disk := by
  rw [prepareDirectory_run] at hrun
  split at hrun
  · cases hrun
  · split at hrun
    · cases hrun
    · next e disk hensure =>
        cases hrun
        exact .directory hensure

theorem terms_fault (hresource : m.findResource Snippet.standardFamily = some resource) {within : List String}
    {α : Type} {x : Build α} {post : α → Prop}
    (hx : Build.Composed (g.workshop m (some resource)) (g.terms (g.workshop m (some resource))) within x post)
    {b c : Bench} {f : Fault} (hrun : x.run b = (.error f, c)) : (∃ e, f = .render e) ∨ g.Cause m f c.disk := by
  refine hx.fault (P := fun f disk => (∃ e, f = .render e) ∨ g.Cause m f disk) ?_ ?_ hrun
  · intro item snippet b c f hsnippet _ hrun
    exact renderJson_fault hsnippet hrun
  · intro β y b c f hy hrun
    cases hy with
    | onDocument f => cases hrun
    | write kind output houtput text =>
        rw [writeDocument_run] at hrun
        split at hrun
        · cases hrun
        · next e disk hwrite =>
            cases hrun
            exact .inr (.document hresource houtput hwrite)
    | prepare => exact .inr (prepareDirectory_fault hrun)

/-- The documents of a process manager are all attempted, unless one of the three things stops them: a snippet that
cannot be rendered or parsed does not. -/
theorem buildArtifacts_fault (hregistry : g.registry.BuiltIn) {flow : Workflow} (hflow : m.workflow = some flow)
    (hresource : m.findResource Snippet.standardFamily = some resource) {kinds : List ArtifactKind} {b c : Bench}
    {f : Fault} (hrun : (g.buildArtifacts (g.workshop m (some resource)) kinds).run b = (.error f, c)) :
    g.Cause m f c.disk := by
  induction kinds generalizing b with
  | nil => cases hrun
  | cons kind rest ih =>
      rw [buildArtifacts, Build.run_bind] at hrun
      split at hrun
      · rw [Build.run_bind] at hrun
        split at hrun
        · cases hrun
        · next e d hrest =>
            cases hrun
            exact ih hrest
      · next e d hattempt =>
          cases hrun
          have hrecovering : (Build.recovering (g.workshop m (some resource))
              (g.buildArtifact (g.workshop m (some resource)) kind)).run b = (.error f, c) := hattempt
          rw [Build.recovering_run] at hrecovering
          split at hrecovering
          · cases hrecovering
          · next hnot =>
              rcases terms_fault hresource (buildArtifact_composed hregistry hflow kind) hrecovering with
                ⟨e, rfl⟩ | hcause
              · exact absurd hrecovering (hnot e c)
              · exact hcause

theorem buildManager_fault (hregistry : g.registry.BuiltIn) {b c : Bench} {f : Fault}
    (hrun : (g.buildManager m).run b = (.error f, c)) : g.Cause m f c.disk := by
  cases hready : g.ready? m with
  | none =>
      refine (buildManager_of_not_ready hready none).fault ?_ ?_ hrun
      · intro _ _ _ _ _ _ hitem
        exact hitem.elim
      · intro β y b c f hy hrun
        cases hy with
        | prepare => exact prepareDirectory_fault hrun
  | some resource =>
      obtain ⟨⟨flow, hflow⟩, hresource, heq⟩ := buildManager_of_ready hready
      rw [heq, Build.run_bind] at hrun
      split at hrun
      · rw [buildDocuments, Build.run_bind] at hrun
        exact buildArtifacts_fault hregistry hflow hresource hrun
      · next e d hprepare =>
          cases hrun
          exact prepareDirectory_fault hprepare

/-- A run that is not cancelled is stopped by a fault that has a cause. -/
theorem runTurns_fault (hregistry : g.registry.BuiltIn) {ts : List Turn} {p q : Progress} {s : Stop}
    (hrun : (g.runTurns none ts).run p = (.error s, q)) :
    ∃ f, ∃ m ∈ ts.flatMap Turn.managers, s = .fault f ∧ g.Cause m f q.disk := by
  induction ts generalizing p with
  | nil => cases hrun
  | cons t rest ih =>
      rw [runTurns_cons_run] at hrun
      rw [List.flatMap_cons]
      cases t with
      | idle application => exact ih hrun
      | build application index m =>
          rw [runTurn_build_run, runManager_run] at hrun
          cases hbuild : (g.buildManager m).run (p.bench application m) with
          | mk result c =>
              rw [hbuild] at hrun
              cases result with
              | ok written =>
                  obtain ⟨f, other, hother, hs, hcause⟩ := ih hrun
                  exact ⟨f, other, List.mem_append_right _ hother, hs, hcause⟩
              | error f =>
                  cases hrun
                  exact ⟨f, m, List.mem_append_left _ (List.mem_singleton_self m), rfl,
                    buildManager_fault hregistry hbuild⟩

/-- A generation that meets with no fault is a run to the end of all turns. -/
theorem exists_run_of_faultless (hregistry : g.registry.BuiltIn) {model : MigrationModel} {p : Progress}
    (htarget : model.target.hostsStandard = true)
    (h : ∀ f, ((g.generate none model).run p).1 ≠ .error (.fault f)) :
    ∃ q, (g.runTurns none (turns 0 model.applications)).run p = (.ok (), q) := by
  cases hrun : (g.runTurns none (turns 0 model.applications)).run p with
  | mk result q =>
      cases result with
      | ok => exact ⟨q, rfl⟩
      | error stop =>
          obtain ⟨f, _, _, rfl, _⟩ := runTurns_fault hregistry hrun
          refine absurd ?_ (h f)
          rw [generate_run, if_pos htarget, hrun]

/-- The fault that a generation stopped at. -/
def fault? : Except Stop Report → Option Fault
  | .error (.fault f) => some f
  | _ => none

theorem fault?_isNone_iff {result : Except Stop Report} :
    (fault? result).isNone ↔ ∀ f, result ≠ .error (.fault f) := by
  cases result with
  | ok report => simp [fault?]
  | error stop => cases stop <;> simp [fault?]

/-- A generation that came to its end: it gives its report, or fails with it where there are errors. -/
def Reports (outcome : Except Stop Report × Progress) : Prop :=
  outcome.1 = if outcome.2.report.isSuccess then .ok outcome.2.report else .error (.failed outcome.2.report)

theorem reports_failed_iff {outcome : Except Stop Report × Progress} (h : Reports outcome) (r : Report) :
    outcome.1 = .error (.failed r) ↔ outcome.2.report.isSuccess = false ∧ r = outcome.2.report := by
  rw [h]
  cases outcome.2.report.isSuccess with
  | true => simp
  | false =>
      constructor
      · intro heq
        cases heq
        exact ⟨rfl, rfl⟩
      · rintro ⟨_, rfl⟩
        rfl

theorem exists_failed_iff {outcome : Except Stop Report × Progress} (h : Reports outcome) :
    (∃ r, outcome.1 = .error (.failed r)) ↔ outcome.2.report.errors ≠ [] := by
  have hempty : outcome.2.report.isSuccess = false ↔ outcome.2.report.errors ≠ [] := by
    rw [Report.isSuccess, ← Bool.not_eq_true, List.isEmpty_iff]
  rw [← hempty]
  constructor
  · rintro ⟨r, hr⟩
    exact ((reports_failed_iff h r).mp hr).1
  · intro hfailed
    exact ⟨_, (reports_failed_iff h _).mpr ⟨hfailed, rfl⟩⟩

end Generator

/-- Templates for both, the one for the connections being no JSON. -/
def invalidDisk : Disk := smallDisk [("conn.json", .text "oops"), ("app.json", .text "\x7b\x7d")]

end WorkflowForge
