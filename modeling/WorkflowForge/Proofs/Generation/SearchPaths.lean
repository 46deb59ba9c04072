import WorkflowForge.Proofs.Generation.Builds

/-!
More paths to search, after those that are searched already. A file that is found on the earlier paths is found there
still, and a run records an issue for every file that it does not find. So a run without such an issue found all its
files on the earlier paths, and it goes the same way with any paths behind them. The two runs are compared step by step:
they agree on everything but their journals.
-/

namespace WorkflowForge

open Stage (renderings renderings_append)

/-- No issue says that the file of a snippet is missing. -/
def Issue.NoneMissing (issues : List Issue) : Prop := ∀ i ∈ issues, i.kind ≠ .missingSnippet

instance (issues : List Issue) : Decidable (Issue.NoneMissing issues) :=
  inferInstanceAs (Decidable (∀ i ∈ issues, i.kind ≠ .missingSnippet))

theorem Issue.NoneMissing.of_isPrefix {old new : List Issue} (h : NoneMissing new) (hissues : old <+: new) :
    NoneMissing old :=
  fun i hi => h i (hissues.subset hi)

/-- The first file of a name stays the first one when paths are appended. -/
theorem Snippet.findFile_append {paths : List Path} {disk : Disk} {file : String} {source : Path}
    (h : findFile paths disk file = some source) (more : List Path) :
    findFile (paths ++ more) disk file = some source := by
  unfold findFile at h ⊢
  dsimp only at h ⊢
  rw [List.map_append, List.find?_append, h]
  rfl

/-- The workshop with more paths to search. -/
def Workshop.searching (w : Workshop) (more : List Path) : Workshop :=
  { w with templatePaths := w.templatePaths ++ more }

/-- The generator with more paths to search. -/
def Generator.searching (g : Generator) (more : List Path) : Generator :=
  { g with templatePaths := g.templatePaths ++ more }

namespace Build

/-- Two builds that come to the same, but for their journals, wherever the first one misses no file. -/
def Agree {α : Type} (x x' : Build α) : Prop :=
  ∀ (b : Bench) (j : Journal), Issue.NoneMissing (x.run b).2.issues →
    ∃ k, x'.run { b with journal := j } = ((x.run b).1, { (x.run b).2 with journal := k })

/-- A build that takes no issue away. -/
def KeepsIssues {α : Type} (x : Build α) : Prop := ∀ b, b.issues <+: (x.run b).2.issues

variable {w : Workshop} {more : List Path} {α β : Type}

namespace KeepsIssues

theorem done (a : α) : KeepsIssues (Pure.pure a : Build α) := fun _ => List.prefix_refl _

theorem of_eq {x : Build α} (h : ∀ b, (x.run b).2.issues = b.issues) : KeepsIssues x := by
  intro b
  rw [h b]

theorem bind {x : Build α} {f : α → Build β} (hx : KeepsIssues x) (hf : ∀ a, KeepsIssues (f a)) :
    KeepsIssues (x >>= f) :=
  fun b => run_bind_keeps (R := fun b c => b.issues <+: c.issues) List.IsPrefix.trans (hx b) fun a c _ => hf a c

end KeepsIssues

namespace Agree

theorem done (a : α) : Agree (Pure.pure a : Build α) (Pure.pure a) := fun _ j _ => ⟨j, rfl⟩

theorem log (level : Level) (logger name : String) (fields fields' : Fields) :
    Agree (Build.log level logger name fields) (Build.log level logger name fields') :=
  fun _ _ _ => ⟨_, rfl⟩

theorem record (kind : IssueKind) (message : String) (path : Option String) :
    Agree (Build.record w kind message path) (Build.record (w.searching more) kind message path) :=
  fun _ _ _ => ⟨_, rfl⟩

-- That the first build misses no file at its end says so of its first part too, as the second part keeps all issues.
theorem bind {x x' : Build α} {f f' : α → Build β} (hx : Agree x x')
    (hf : ∀ b a c, x.run b = (.ok a, c) → Agree (f a) (f' a) ∧ KeepsIssues (f a)) : Agree (x >>= f) (x' >>= f') := by
  intro b j hnone
  have hfirst := hx b j
  rw [run_bind] at hnone ⊢
  rw [run_bind]
  cases hrun : x.run b with
  | mk r c =>
      rw [hrun] at hnone hfirst
      cases r with
      | error e =>
          obtain ⟨k, hk⟩ := hfirst hnone
          rw [hk]
          exact ⟨k, rfl⟩
      | ok a =>
          obtain ⟨hagree, hkeeps⟩ := hf b a c hrun
          obtain ⟨k, hk⟩ := hfirst (hnone.of_isPrefix (hkeeps c))
          rw [hk]
          exact hagree c k hnone

theorem recovering {x x' : Build (Option Path)} (hx : Agree x x') :
    Agree (Build.recovering w x) (Build.recovering (w.searching more) x') := by
  intro b j hnone
  have hfirst := hx b j
  rw [recovering_run] at hnone ⊢
  rw [recovering_run]
  cases hrun : x.run b with
  | mk r c =>
      rw [hrun] at hnone hfirst
      cases r with
      | ok a =>
          obtain ⟨k, hk⟩ := hfirst hnone
          rw [hk]
          exact ⟨k, rfl⟩
      | error f =>
          cases f with
          | render e =>
              obtain ⟨k, hk⟩ := hfirst (hnone.of_isPrefix (List.prefix_append _ _))
              rw [hk]
              exact ⟨_, rfl⟩
          | template e =>
              obtain ⟨k, hk⟩ := hfirst hnone
              rw [hk]
              exact ⟨k, rfl⟩
          | disk e =>
              obtain ⟨k, hk⟩ := hfirst hnone
              rw [hk]
              exact ⟨k, rfl⟩

end Agree

/-- A rendering that finds its file finds it with more paths too, and does the same with it. -/
theorem renderJson_agree (item : Option Item) (snippet : Snippet) :
    Agree (renderJson w item snippet true) (renderJson (w.searching more) item snippet true) := by
  intro b j hnone
  rw [renderJson_run] at hnone ⊢
  rw [renderJson_run]
  cases hfind : Snippet.findFile w.templatePaths b.disk snippet.templateFile with
  | none =>
      rw [hfind] at hnone
      exact absurd rfl (hnone (missing w snippet) (List.mem_append_right _ List.mem_cons_self))
  | some source =>
      have hfind' : Snippet.findFile (w.searching more).templatePaths b.disk snippet.templateFile = some source :=
        Snippet.findFile_append hfind more
      have htext : textOf (w.searching more) item snippet source (numbered item { b with journal := j }) =
          textOf w item snippet source (numbered item b) := rfl
      have htarget : nextTarget (w.searching more) item snippet source { b with journal := j } =
          nextTarget w item snippet source b := rfl
      have hsuffixes : (w.searching more).suffixes = w.suffixes := rfl
      dsimp only
      rw [hfind']
      dsimp only
      rw [htext, htarget, hsuffixes]
      cases textOf w item snippet source (numbered item b) with
      | error f => exact ⟨_, rfl⟩
      | ok text =>
          dsimp only
          split
          · exact ⟨_, rfl⟩
          · split
            · exact ⟨_, rfl⟩
            · exact ⟨_, rfl⟩

theorem Composed.keepsIssues {t : Terms} {within : List String} {x : Build α} {post : α → Prop}
    (hx : Composed w t within x post)
    (hfurther : ∀ (β : Type) (y : Build β) b, t.further β y → (y.run b).2.issues = b.issues) : KeepsIssues x :=
  fun b => (hx.added hfurther b).isPrefix

/-- A build agrees with itself where there are more paths to search, if its further steps do. -/
theorem Paired.agree {t : Terms} {within : List String} {x x' : Build α} {post : α → Prop}
    (hx : Paired w (w.searching more) t.diagonal within x x' post)
    (hfurther : ∀ (β : Type) (y : Build β), t.further β y → Agree y y ∧ ∀ b, (y.run b).2.issues = b.issues) :
    Agree x x' := by
  induction hx with
  | pure _ => exact .done _
  | bind hx hf ihx ihf =>
      refine ihx.bind fun b a c hrun => ⟨ihf a (hx.post hrun), ?_⟩
      have hrest : Composed w t within _ _ :=
        composed (p := t.diagonal) (fun _ _ h => h.2) (fun _ _ _ h => h.2) (hf a (hx.post hrun))
      exact hrest.keepsIssues fun β y b hy => (hfurther β y hy).2 b
  | document => exact fun b j _ => ⟨j, rfl⟩
  | log level logger name fields fields' _ => exact .log level logger name fields fields'
  | record kind message path _ => exact .record kind message path
  | add s _ name body => exact fun b j _ => ⟨j, rfl⟩
  | renderJson item item' snippet _ hitem =>
      rw [hitem.1]
      exact renderJson_agree item snippet
  | further h =>
      rw [h.1]
      exact (hfurther _ _ h.2).1

/-- A rendering that does not find its file leaves its issue to the end of the course. -/
theorem Course.missing_mem {t : Terms} {x : Build α} {b : Bench} {stages : List Stage}
    {result : Except Fault α × Bench} (h : Course w t x b stages result)
    (hfurther : ∀ (β : Type) (y : Build β) b, t.further β y → (y.run b).2.issues = b.issues) :
    b.issues <+: result.2.issues ∧ ∀ r ∈ renderings stages,
      Snippet.findFile w.templatePaths r.before.disk r.snippet.templateFile = none →
        missing w r.snippet ∈ result.2.issues := by
  induction h with
  | pure a b => exact ⟨List.prefix_refl _, by simp [renderings]⟩
  | plain hx b =>
      refine ⟨?_, by simp [renderings]⟩
      cases hx with
      | document => exact List.prefix_refl _
      | log level logger name fields _ => exact List.prefix_refl _
      | record kind message path => exact List.prefix_append _ _
      | add s name body => exact List.prefix_refl _
      | further hstep => rw [hfurther _ _ b hstep]
  | rendering item snippet _ _ b =>
      refine ⟨(renderJson_added w item snippet b).isPrefix, ?_⟩
      intro r hr hfind
      have heq : r = ⟨item, snippet, b⟩ := List.mem_singleton.mp hr
      rw [heq] at hfind ⊢
      rw [renderJson_run, hfind]
      exact List.mem_append_right _ List.mem_cons_self
  | bind _ _ ihx ihf =>
      refine ⟨ihx.1.trans ihf.1, ?_⟩
      rw [renderings_append, List.forall_mem_append]
      exact ⟨fun r hr hfind => ihf.1.subset (ihx.2 r hr hfind), ihf.2⟩
  | stop _ ih => exact ih
  | recovered _ ih =>
      refine ⟨ih.1.trans (List.prefix_append _ _), ?_⟩
      rw [renderings_append, List.forall_mem_append]
      exact ⟨fun r hr hfind => List.mem_append_left _ (ih.2 r hr hfind), by simp [renderings]⟩
  | passed _ _ ih => exact ih

end Build

namespace Generator

variable {g : Generator} {w : Workshop} {more : List Path}

theorem writeDocument_agree (kind : ArtifactKind) (target : Path) (text : String) :
    Build.Agree (writeDocument w kind target text) (writeDocument (w.searching more) kind target text) := by
  intro b j _
  rw [writeDocument_run, writeDocument_run]
  dsimp only
  split
  · exact ⟨_, rfl⟩
  · exact ⟨_, rfl⟩

theorem prepareDirectory_agree : Build.Agree g.prepareDirectory (g.searching more).prepareDirectory := by
  intro b j _
  have hpath : (g.searching more).generationPath = g.generationPath := rfl
  rw [prepareDirectory_run, prepareDirectory_run, hpath]
  dsimp only
  split
  · exact ⟨_, rfl⟩
  · split
    · exact ⟨_, rfl⟩
    · exact ⟨_, rfl⟩

/-- Whether a run is to stop does not depend on its journal. -/
theorem checkCancelled_journal (cancel : Option (Nat → Bool)) (m : ProcessManager) (p : Progress) (j : Journal) :
    ∃ k, (checkCancelled cancel m).run { p with journal := j } =
      (((checkCancelled cancel m).run p).1, { ((checkCancelled cancel m).run p).2 with journal := k }) := by
  cases cancel with
  | none => exact ⟨j, rfl⟩
  | some answers =>
      have hget (q : Progress) : (MonadState.get : Run Progress).run q = (.ok q, q) := rfl
      rw [checkCancelled, Run.run_bind, Run.run_bind, hget, hget]
      dsimp only
      cases answers p.checks with
      | false => exact ⟨_, rfl⟩
      | true => exact ⟨_, rfl⟩

/-- The report comes after all issues. -/
theorem generate_issues {model : MigrationModel} (htarget : model.target.hostsStandard = true)
    (cancel : Option (Nat → Bool)) (p : Progress) :
    ((g.generate cancel model).run p).2.issues =
      ((g.runTurns cancel (turns 0 model.applications)).run p).2.issues := by
  rw [generate_run, if_pos htarget]
  cases (g.runTurns cancel (turns 0 model.applications)).run p with
  | mk result q => cases result <;> rfl

/-- A rendering of a building that records no missing file finds its file. -/
theorem RendersIn.found {m : ProcessManager} {b : Bench} {r : Rendering} (h : g.RendersIn m b r)
    (hnone : Issue.NoneMissing ((g.buildManager m).run b).2.issues) :
    ∃ source, Snippet.findFile g.templatePaths r.before.disk r.snippet.templateFile = some source := by
  obtain ⟨stages, result, hcourse, hr⟩ := h
  have hmissing := (hcourse.missing_mem fun _ _ b hy => step_issues hy b).2 r hr
  rw [← hcourse.run_eq] at hmissing
  rw [← Option.ne_none_iff_exists']
  intro hfind
  exact hnone _ (hmissing hfind) rfl

variable (more) (hregistry : g.registry.BuiltIn)

include hregistry

theorem draft_agree {flow : Workflow} (hflow : w.manager.workflow = some flow) (kind : ArtifactKind) :
    Build.Agree (g.draft w kind) ((g.searching more).draft (w.searching more) kind) := by
  have hself := (draftTerms_drafts w).counterparts hflow
  have hcounterparts : w.Counterparts (draftTerms w).diagonal (w.searching more) :=
    ⟨hself.snippets, hself.workflow, hself.nothing⟩
  have hpaired := draft_paired hregistry hcounterparts (fun f => ⟨rfl, .onDocument f⟩) rfl kind
  refine hpaired.agree fun β y hy => ?_
  cases hy with
  | onDocument f => exact ⟨fun b j _ => ⟨j, rfl⟩, fun b => rfl⟩

theorem buildArtifact_agree {flow : Workflow} (hflow : w.manager.workflow = some flow) (kind : ArtifactKind) :
    Build.Agree (g.buildArtifact w kind) ((g.searching more).buildArtifact (w.searching more) kind) := by
  refine (draft_agree more hregistry hflow kind).bind fun b drafted c _ => ?_
  cases drafted with
  | none => exact ⟨.done _, .done _⟩
  | some pair =>
      refine ⟨(writeDocument_agree kind _ _).bind fun _ _ _ _ => ⟨.done _, .done _⟩, ?_⟩
      exact .bind (.of_eq fun b => writeDocument_issues w kind _ _ b) fun _ => .done _

theorem buildArtifacts_agree {flow : Workflow} (hflow : w.manager.workflow = some flow) (kinds : List ArtifactKind) :
    Build.Agree (g.buildArtifacts w kinds) ((g.searching more).buildArtifacts (w.searching more) kinds) := by
  induction kinds with
  | nil => exact .done _
  | cons kind rest ih =>
      have hattempt : Build.Agree (g.attemptArtifact w kind)
          ((g.searching more).attemptArtifact (w.searching more) kind) :=
        (buildArtifact_agree more hregistry hflow kind).recovering
      have hkeeps := (buildArtifacts_composed hregistry hflow rest).keepsIssues fun _ _ b hy => step_issues hy b
      refine hattempt.bind fun _ _ _ _ => ⟨ih.bind fun _ _ _ _ => ⟨.done _, .done _⟩, ?_⟩
      exact hkeeps.bind fun _ => .done _

/-- A process manager's documents do not depend on the paths behind those on which all files are found. -/
theorem buildManager_agree (hpaths : g.templatePaths ≠ []) (m : ProcessManager) :
    Build.Agree (g.buildManager m) ((g.searching more).buildManager m) := by
  have hsome : g.templatePaths.isEmpty = false := by simpa using hpaths
  have hsome' : (g.searching more).templatePaths.isEmpty = false := by simp [searching, hpaths]
  unfold buildManager
  dsimp only
  rw [hsome, hsome']
  split
  · exact fun _ _ _ => ⟨_, rfl⟩
  · split
    · exact fun _ _ _ => ⟨_, rfl⟩
    · next hworkflow =>
        obtain ⟨flow, hflow⟩ : ∃ flow, m.workflow = some flow := by
          rwa [← Option.isSome_iff_exists, ← Option.not_isNone, Bool.not_eq_true', ← Bool.not_eq_true]
        refine prepareDirectory_agree.bind fun _ _ _ _ => ?_
        cases m.findResource Snippet.standardFamily with
        | none => exact ⟨fun _ _ _ => ⟨_, rfl⟩, .of_eq fun _ => rfl⟩
        | some resource =>
            have hkeeps := (buildDocuments_composed hregistry hflow resource).keepsIssues fun _ _ b hy =>
              step_issues hy b
            refine ⟨(Build.Agree.log _ _ _ _ _).bind fun _ _ _ _ => ⟨?_, ?_⟩, hkeeps⟩
            · exact buildArtifacts_agree (w := g.workshop m (some resource)) more hregistry hflow ArtifactKind.all
            · exact (buildArtifacts_composed (w := g.workshop m (some resource)) hregistry hflow
                ArtifactKind.all).keepsIssues fun _ _ b hy => step_issues hy b

theorem runTurn_agree (hpaths : g.templatePaths ≠ []) (cancel : Option (Nat → Bool)) (t : Turn) (p : Progress)
    (j : Journal) (hnone : Issue.NoneMissing ((g.runTurn cancel t).run p).2.issues) :
    ∃ k, ((g.searching more).runTurn cancel t).run { p with journal := j } =
      (((g.runTurn cancel t).run p).1, { ((g.runTurn cancel t).run p).2 with journal := k }) := by
  cases t with
  | idle application => exact ⟨_, rfl⟩
  | build application index m =>
      obtain ⟨k, hk⟩ := checkCancelled_journal cancel m p j
      rw [runTurn, Run.run_bind] at hnone ⊢
      rw [runTurn, Run.run_bind, hk]
      cases hcheck : (checkCancelled cancel m).run p with
      | mk result q =>
          rw [hcheck] at hnone
          cases result with
          | error s => exact ⟨k, rfl⟩
          | ok =>
              dsimp only at hnone ⊢
              rw [runManager_run] at hnone ⊢
              rw [runManager_run]
              obtain ⟨l, hl⟩ := buildManager_agree more hregistry hpaths m (q.bench application m)
                (k.bind [("workflow", .string m.name), ("application", .string application)]) hnone
              have hbench : ({ q with journal := k } : Progress).bench application m = { q.bench application m with
                journal := k.bind [("workflow", .string m.name), ("application", .string application)] } := rfl
              rw [hbench, hl]
              exact ⟨_, rfl⟩

theorem runTurns_agree (hpaths : g.templatePaths ≠ []) (cancel : Option (Nat → Bool)) (ts : List Turn) (p : Progress)
    (j : Journal) (hnone : Issue.NoneMissing ((g.runTurns cancel ts).run p).2.issues) :
    ∃ k, ((g.searching more).runTurns cancel ts).run { p with journal := j } =
      (((g.runTurns cancel ts).run p).1, { ((g.runTurns cancel ts).run p).2 with journal := k }) := by
  induction ts generalizing p j with
  | nil => exact ⟨j, rfl⟩
  | cons t rest ih =>
      have hfirst := runTurn_agree more hregistry hpaths cancel t p j
      rw [runTurns_cons_run] at hnone ⊢
      rw [runTurns_cons_run]
      cases hturn : (g.runTurn cancel t).run p with
      | mk result q =>
          rw [hturn] at hnone hfirst
          cases result with
          | error s =>
              obtain ⟨k, hk⟩ := hfirst hnone
              rw [hk]
              exact ⟨k, rfl⟩
          | ok =>
              obtain ⟨k, hk⟩ := hfirst (hnone.of_isPrefix (runTurns_issues hregistry cancel rest q))
              rw [hk]
              exact ih q k hnone

theorem generate_agree (hpaths : g.templatePaths ≠ []) (cancel : Option (Nat → Bool)) (model : MigrationModel)
    (p : Progress) (hnone : Issue.NoneMissing ((g.generate cancel model).run p).2.issues) :
    ∃ k, ((g.searching more).generate cancel model).run p =
      (((g.generate cancel model).run p).1, { ((g.generate cancel model).run p).2 with journal := k }) := by
  by_cases htarget : model.target.hostsStandard = true
  · rw [generate_issues htarget] at hnone
    obtain ⟨k, hk⟩ := runTurns_agree more hregistry hpaths cancel (turns 0 model.applications) p p.journal hnone
    rw [generate_run, generate_run, if_pos htarget, if_pos htarget, hk]
    cases (g.runTurns cancel (turns 0 model.applications)).run p with
    | mk result q =>
        cases result with
        | error s => exact ⟨k, rfl⟩
        | ok => exact ⟨_, rfl⟩
  · rw [generate_run, generate_run, if_neg htarget, if_neg htarget]
    exact ⟨_, rfl⟩

end Generator

/-- A run that records no missing file is the same with any paths appended to those that it searches: it ends the same
way, with the same report, the same disk, and so the same documents and kept texts, and the same issues. Each of its
renderings finds its file, and finds that file still. -/
theorem appended_paths_change_nothing (g : Generator) (more : List Path) (cancel : Option (Nat → Bool))
    (model : MigrationModel) (disk : Disk) (journal : Journal) (checks : Nat) (hregistry : g.registry.BuiltIn)
    (hpaths : g.templatePaths ≠ [])
    (hnone : Issue.NoneMissing ((g.generate cancel model).run (Progress.start disk journal checks)).2.issues) :
    let start := Progress.start disk journal checks
    let final := (g.generate cancel model).run start
    let final' := ((g.searching more).generate cancel model).run start
    final'.1 = final.1 ∧ { final'.2 with journal := final.2.journal } = final.2 ∧
      (model.target.hostsStandard = true → ∀ index m b r,
        g.Builds cancel (Generator.turns 0 model.applications) start index m b → g.RendersIn m b r → ∃ source,
          Snippet.findFile g.templatePaths r.before.disk r.snippet.templateFile = some source ∧
          Snippet.findFile (g.templatePaths ++ more) r.before.disk r.snippet.templateFile = some source) := by
  intro start final final'
  obtain ⟨k, hk⟩ := Generator.generate_agree more hregistry hpaths cancel model start hnone
  have hfinal' : final' = (final.1, { final.2 with journal := k }) := hk
  rw [hfinal']
  refine ⟨rfl, rfl, fun htarget index m b r hbuilds hr => ?_⟩
  rw [Generator.generate_issues htarget] at hnone
  obtain ⟨source, hsource⟩ := hr.found (hnone.of_isPrefix (hbuilds.issues hregistry))
  exact ⟨source, hsource, Snippet.findFile_append hsource more⟩

/-- A template and a plain file, both kept for inspection. -/
def doubledModel : MigrationModel :=
  smallModel [smallManager "pm" "flow"
    [(.connections, "conn.json.j2", some "debug", "c.json"), (.appSettings, "app.json", some "debug", "a.json")]]

/-- A disk on which each file is in two directories, with another text in each. -/
def doubledDisk : Disk :=
  let d := smallDisk [("conn.json.j2", .text "[\x7b\x7b 1 + 1 \x7d\x7d]"), ("app.json", .text "\x7b\x7d")]
  { d with
    entries := d.entries ++ [(["others"], .directory), (["others", "conn.json.j2"], .file (.text "[]")),
      (["others", "app.json"], .file (.text "[]"))] }

theorem appended_paths_change_nothing_doubled :
    let start := Progress.start doubledDisk .empty 0
    let final := (smallGenerator.generate none doubledModel).run start
    let final' := ((smallGenerator.searching [.ofText "others"]).generate none doubledModel).run start
    (final.2.written.length = 2 ∧ (final.2.disk.entryAt? ["generated", "debug", "1.flow.conn.json"]).isSome) ∧
      final'.1 = final.1 ∧ { final'.2 with journal := final.2.journal } = final.2 ∧
      (doubledModel.target.hostsStandard = true → ∀ index m b r,
        smallGenerator.Builds none (Generator.turns 0 doubledModel.applications) start index m b →
        smallGenerator.RendersIn m b r → ∃ source,
          Snippet.findFile smallGenerator.templatePaths r.before.disk r.snippet.templateFile = some source ∧
          Snippet.findFile (smallGenerator.templatePaths ++ [.ofText "others"]) r.before.disk r.snippet.templateFile =
            some source) := by
  have hrun : let final := (smallGenerator.generate none doubledModel).run (Progress.start doubledDisk .empty 0)
      (final.2.written.length = 2 ∧ (final.2.disk.entryAt? ["generated", "debug", "1.flow.conn.json"]).isSome) ∧
        Issue.NoneMissing final.2.issues := by
    decide +kernel
  exact ⟨hrun.1, appended_paths_change_nothing smallGenerator [.ofText "others"] none doubledModel doubledDisk .empty 0
    Registry.standard_builtIn (by simp [smallGenerator]) hrun.2⟩

end WorkflowForge
