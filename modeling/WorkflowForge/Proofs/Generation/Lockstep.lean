import WorkflowForge.Proofs.Files.Agreement
import WorkflowForge.Proofs.Generation.Trace
import WorkflowForge.Proofs.Generation.Turns

/-!
Two runs in lockstep. The first has something behind it that the second has not: issues, written files, entries on its
disk. A comparison says how the two disks are related and that the second run can do on its own disk what the first one
does. Then the second run takes the same steps with the same results, and the two stay related, as long as the first
meets with nothing but failures at snippets.

The relation may depend on where the first run is known to end up, so the comparison has a condition on states of the
first run that passes from every state to the earlier ones.
-/

namespace WorkflowForge

/-- A relation between the disks of two runs, given the journal of the first, that what the first does on its way to a
known end carries over to the second. -/
structure Comparison (paths : List Path) where
  rel : Journal → Disk → Disk → Prop
  leads : Journal → Disk → Prop
  rel_later {j k : Journal} {d e : Disk} (h : rel j d e) (hevents : j.events <+: k.events) : rel k d e
  leads_earlier {j k : Journal} {d e : Disk} (h : leads k e) (htold : Told (fun _ => True) j d k e) : leads j d
  found {j : Journal} {d e : Disk} {file : String} {source : Path} (h : rel j d e)
    (hleads : leads (Snippet.logFound file source j) d) (hfind : Snippet.findFile paths d file = some source) :
    Snippet.findFile paths e file = some source ∧ d.readContent source = e.readContent source
  missing {j : Journal} {d e : Disk} {w : Workshop} {snippet : Snippet} (h : rel j d e)
    (hleads : leads ((Build.missing w snippet).log j) d)
    (hfind : Snippet.findFile paths d snippet.templateFile = none) :
    Snippet.findFile paths e snippet.templateFile = none
  writeText {j : Journal} {d d' e : Disk} {target : Path} {text : String} {level : Level} {logger name : String}
    {fields : Fields} (h : rel j d e) (hrun : d.writeText target text = (.ok (), d')) (hproper : target.IsProper)
    (hname : name ∈ Event.tellingOfFiles) (hpath : Fields.get? fields "path" = some (.string target.toText))
    (hleads : leads (j.emit level logger name fields) d') : ∃ e', e.writeText target text = (.ok (), e') ∧ rel j d' e'
  copyFile {j : Journal} {d d' e : Disk} {source target : Path} {content : Content} {level : Level}
    {logger name : String} {fields : Fields} (h : rel j d e) (hrun : d.copyFile source target = (.ok (), d'))
    (hread : d.readContent source = .ok content) (hread' : e.readContent source = .ok content)
    (hproper : target.IsProper) (hname : name ∈ Event.tellingOfFiles)
    (hpath : Fields.get? fields "path" = some (.string target.toText))
    (hleads : leads (j.emit level logger name fields) d') : ∃ e', e.copyFile source target = (.ok (), e') ∧ rel j d' e'
  prepare {j : Journal} {d d' e : Disk} {p : Path} (h : rel j d e) (hrun : d.prepare p = (.ok (), d')) :
    ∃ e', e.prepare p = (.ok (), e') ∧ rel j d' e'

/-- Two runs on the same disk. -/
def Comparison.same (paths : List Path) : Comparison paths where
  rel _ d e := d = e
  leads _ _ := True
  rel_later h _ := h
  leads_earlier _ _ := trivial
  found h _ hfind := by
    subst h
    exact ⟨hfind, rfl⟩
  missing h _ hfind := by rwa [← h]
  writeText h hrun _ _ _ _ := ⟨_, by rwa [← h], rfl⟩
  copyFile h hrun _ _ _ _ _ _ := ⟨_, by rwa [← h], rfl⟩
  prepare h hrun := ⟨_, by rwa [← h], rfl⟩

/-- Two benches that differ in what is behind the builds, and in their journals. -/
structure Bench.Alike {paths : List Path} (s : Comparison paths) (earlier : List Issue) (b c : Bench) : Prop where
  document : c.document = b.document
  ids : c.ids = b.ids
  stamps : c.stamps = b.stamps
  issues : b.issues = earlier ++ c.issues
  disks : s.rel b.journal b.disk c.disk

namespace Bench.Alike

variable {paths : List Path} {s : Comparison paths} {earlier : List Issue} {b c : Bench}

theorem emit (h : Alike s earlier b c) (level : Level) (logger name : String) (fields : Fields) (j : Journal) :
    Alike s earlier { b with journal := b.journal.emit level logger name fields } { c with journal := j } :=
  ⟨h.document, h.ids, h.stamps, h.issues, s.rel_later h.disks (List.prefix_append _ _)⟩

theorem onDisk (h : Alike s earlier b c) {d e : Disk} {j : Journal} (hevents : b.journal.events <+: j.events)
    (hrel : s.rel b.journal d e) (k : Journal) :
    Alike s earlier { b with disk := d, journal := j } { c with disk := e, journal := k } :=
  ⟨h.document, h.ids, h.stamps, h.issues, s.rel_later hrel hevents⟩

theorem recorded (h : Alike s earlier b c) (issue : Issue) :
    Alike s earlier (Build.recorded issue b) (Build.recorded issue c) where
  document := h.document
  ids := h.ids
  stamps := h.stamps
  issues := by
    change b.issues ++ [issue] = earlier ++ (c.issues ++ [issue])
    rw [h.issues, List.append_assoc]
  disks := s.rel_later h.disks (List.prefix_append _ _)

theorem numbered (h : Alike s earlier b c) (item : Option Item) :
    Alike s earlier (Build.numbered item b) (Build.numbered item c) where
  document := h.document
  ids := congrArg (· + 1) h.ids
  stamps := by
    unfold Build.numbered
    rw [h.ids, h.stamps]
  issues := h.issues
  disks := h.disks

end Bench.Alike

namespace Build

/-- There is a result, or a snippet is to blame that there is none. -/
def Recoverable {α : Type} (r : Except Fault α) : Prop := ∀ f, r = .error f → ∃ e, f = .render e

theorem recoverable_ok {α : Type} (a : α) : Recoverable (.ok a : Except Fault α) := by
  intro f hf
  cases hf

theorem Recoverable.error {α β : Type} {f : Fault} (h : Recoverable (.error f : Except Fault α)) :
    Recoverable (.error f : Except Fault β) := by
  intro f' hf'
  cases hf'
  exact h f rfl

theorem not_recoverable_disk {α : Type} (e : DiskError) : ¬ Recoverable (.error (.disk e) : Except Fault α) := by
  intro h
  obtain ⟨_, heq⟩ := h _ rfl
  cases heq

theorem not_recoverable_template {α : Type} (f : Template.Failure) :
    ¬ Recoverable (.error (.template f) : Except Fault α) := by
  intro h
  obtain ⟨_, heq⟩ := h _ rfl
  cases heq

/-- A build that tells of all files it writes. -/
def IsTold {α : Type} (x : Build α) : Prop :=
  ∀ b, Told (fun _ => True) b.journal b.disk (x.run b).2.journal (x.run b).2.disk

/-- A build that goes in lockstep on benches that are alike. -/
def Locked {paths : List Path} (s : Comparison paths) (earlier : List Issue) {α : Type} (x : Build α) : Prop :=
  ∀ ⦃b c b' : Bench⦄ ⦃r : Except Fault α⦄, b.Alike s earlier c → x.run b = (r, b') → Recoverable r →
    s.leads b'.journal b'.disk → ∃ c', x.run c = (r, c') ∧ b'.Alike s earlier c'

variable {paths : List Path} {s : Comparison paths} {earlier : List Issue} {w : Workshop} {α β : Type}

theorem Locked.bind {x : Build α} {f : α → Build β} (hx : Locked s earlier x)
    (hf : ∀ b a c, x.run b = (.ok a, c) → Locked s earlier (f a) ∧ IsTold (f a)) : Locked s earlier (x >>= f) := by
  intro b c b' r halike hrun hr hleads
  rw [run_bind] at hrun
  cases hfirst : x.run b with
  | mk r₁ b₁ =>
      rw [hfirst] at hrun
      cases r₁ with
      | error e =>
          cases hrun
          obtain ⟨c', hc', halike'⟩ := hx halike hfirst hr.error hleads
          exact ⟨c', by rw [run_bind, hc'], halike'⟩
      | ok a =>
          dsimp only at hrun
          obtain ⟨hlocked, htold⟩ := hf b a b₁ hfirst
          have hrest := htold b₁
          rw [hrun] at hrest
          obtain ⟨c₁, hc₁, halike₁⟩ := hx halike hfirst (recoverable_ok a) (s.leads_earlier hleads hrest)
          obtain ⟨c', hc', halike'⟩ := hlocked halike₁ hrun hr hleads
          refine ⟨c', ?_, halike'⟩
          rw [run_bind, hc₁]
          exact hc'

theorem Locked.recovering {x : Build (Option Path)} (hx : Locked s earlier x) :
    Locked s earlier (recovering w x) := by
  intro b c b' r halike hrun hr hleads
  rw [recovering_run] at hrun
  cases hfirst : x.run b with
  | mk r₁ b₁ =>
      rw [hfirst] at hrun
      cases r₁ with
      | ok a =>
          cases hrun
          obtain ⟨c', hc', halike'⟩ := hx halike hfirst hr hleads
          exact ⟨c', by rw [recovering_run, hc'], halike'⟩
      | error f =>
          cases f with
          | render e =>
              cases hrun
              have hrender : Recoverable (.error (.render e) : Except Fault (Option Path)) := by
                intro f hf
                cases hf
                exact ⟨e, rfl⟩
              obtain ⟨c', hc', halike'⟩ := hx halike hfirst hrender (s.leads_earlier hleads (told_recorded _ b₁))
              exact ⟨recorded _ c', by rw [recovering_run, hc']; rfl, halike'.recorded _⟩
          | template f =>
              cases hrun
              exact absurd hr (not_recoverable_template f)
          | disk e =>
              cases hrun
              exact absurd hr (not_recoverable_disk e)

/-- What is kept for inspection by the first build is kept by the second one. -/
theorem keep_locked {templated : Bool} {source target : Path} {text : String} {j : Journal} {d d' e : Disk}
    {content : Content} {snippet : Snippet} (h : s.rel j d e)
    (hrun : keep templated source target text d = (.ok (), d')) (hread : d.readContent source = .ok content)
    (hread' : e.readContent source = .ok content) (hproper : target.IsProper)
    (hleads : s.leads (j.emit .debug "flowsmith.snippets.resolver" "snippet_debug_output_written"
      [("snippet", .string snippet.resourceType), ("path", .string target.toText)]) d') :
    ∃ e', keep templated source target text e = (.ok (), e') ∧ s.rel j d' e' := by
  unfold keep at hrun ⊢
  split at hrun
  · next htemplated =>
      rw [if_pos htemplated]
      exact s.writeText h hrun hproper (by decide) (by simp [Fields.get?, List.lookup_cons]) hleads
  · next htemplated =>
      rw [if_neg htemplated]
      exact s.copyFile h hrun hread hread' hproper (by decide) (by simp [Fields.get?, List.lookup_cons]) hleads

theorem textOf_locked {b c : Bench} (h : b.Alike s earlier c) (item : Option Item) (snippet : Snippet) {source : Path}
    (hread : b.disk.readContent source = c.disk.readContent source) :
    textOf w item snippet source c = textOf w item snippet source b := by
  rw [textOf, textOf, Disk.readText_congr hread, h.stamps]

theorem renderJson_locked {s : Comparison w.templatePaths} (hproper : w.generationPath.IsProper) (item : Option Item)
    (snippet : Snippet) : Locked s earlier (renderJson w item snippet true) := by
  intro b c b' r halike hrun hr hleads
  have hnumbered := halike.numbered item
  rw [renderJson_run] at hrun
  rw [renderJson_run]
  cases hfind : Snippet.findFile w.templatePaths b.disk snippet.templateFile with
  | none =>
      rw [hfind] at hrun
      cases hrun
      rw [s.missing halike.disks hleads hfind]
      exact ⟨_, rfl, hnumbered.recorded _⟩
  | some source =>
      rw [hfind] at hrun
      dsimp only at hrun
      have hsearch (hfound : s.leads (Snippet.logFound snippet.templateFile source b.journal) b.disk) :=
        s.found halike.disks hfound hfind
      have hemit : (found snippet source (numbered item b)).Alike s earlier (found snippet source (numbered item c)) :=
        hnumbered.emit _ _ _ _ _
      have hdisks : s.rel (Snippet.logFound snippet.templateFile source b.journal) b.disk c.disk := hemit.disks
      cases htext : textOf w item snippet source (numbered item b) with
      | error f =>
          rw [htext] at hrun
          cases hrun
          obtain ⟨hfind', hread⟩ := hsearch hleads
          rw [hfind']
          dsimp only
          rw [textOf_locked hnumbered item snippet hread, htext]
          exact ⟨_, rfl, hemit⟩
      | ok text =>
          rw [htext] at hrun
          dsimp only at hrun
          by_cases houtput : snippet.outputPath.getD "" = ""
          · rw [if_pos houtput] at hrun
            cases hrun
            obtain ⟨hfind', hread⟩ := hsearch hleads
            rw [hfind']
            dsimp only
            rw [textOf_locked hnumbered item snippet hread, htext]
            dsimp only
            rw [if_pos houtput]
            exact ⟨_, rfl, hemit⟩
          · rw [if_neg houtput] at hrun
            cases hkeep : keep (Snippet.isTemplate w.suffixes source) source (nextTarget w item snippet source b) text
                b.disk with
            | mk result disk =>
                rw [hkeep] at hrun
                cases result with
                | error e =>
                    cases hrun
                    exact absurd hr (not_recoverable_disk e)
                | ok =>
                    cases hrun
                    have htarget := isProper_nextTarget hproper item snippet source b
                    have htold := keep_told (fun _ => True) hkeep htarget trivial snippet
                      (Snippet.logFound snippet.templateFile source b.journal)
                    obtain ⟨hfind', hread⟩ := hsearch (s.leads_earlier hleads htold)
                    obtain ⟨content, hcontent⟩ := (b.disk.isFile_iff _).mp (Snippet.findFile_eq_some hfind).1
                    obtain ⟨disk', hkeep', hrel⟩ :=
                      keep_locked hdisks hkeep hcontent (hread.symm.trans hcontent) htarget hleads
                    have hsame : nextTarget w item snippet source c = nextTarget w item snippet source b := by
                      rw [nextTarget, nextTarget, halike.ids]
                    rw [hfind']
                    dsimp only
                    rw [textOf_locked hnumbered item snippet hread, htext]
                    dsimp only
                    rw [if_neg houtput, hsame, hkeep']
                    exact ⟨_, rfl, hemit.onDisk (List.prefix_append _ _) hrel _⟩

/-- A build whose further steps go in lockstep does so itself. -/
theorem Composed.locked {s : Comparison w.templatePaths} {t : Terms} {within : List String} {x : Build α}
    {post : α → Prop} (hx : Composed w t within x post) (hproper : w.generationPath.IsProper)
    (hfurther : ∀ (β : Type) (y : Build β), t.further β y → Locked s earlier y ∧ IsTold y) : Locked s earlier x := by
  induction hx with
  | pure h =>
      intro b c b' r halike hrun _ _
      cases hrun
      exact ⟨c, rfl, halike⟩
  | bind hx hf ihx ihf =>
      refine ihx.bind ?_
      intro b a c hrun
      have hmid := hx.post hrun
      exact ⟨ihf a hmid, (hf a hmid).told_any hproper fun β y b hy => (hfurther β y hy).2 b⟩
  | document =>
      intro b c b' r halike hrun _ _
      cases hrun
      refine ⟨c, ?_, halike⟩
      change (Except.ok c.document, c) = _
      rw [halike.document]
  | log level logger name fields _ =>
      intro b c b' r halike hrun _ _
      cases hrun
      exact ⟨_, rfl, halike.emit _ _ _ _ _⟩
  | record kind message path =>
      intro b c b' r halike hrun _ _
      rw [record_run] at hrun
      cases hrun
      exact ⟨_, record_run w kind message path c, halike.recorded _⟩
  | add place _ name body =>
      intro b c b' r halike hrun _ _
      rw [add_run_eq] at hrun
      cases hrun
      have hadd := add_run_eq place name body c
      rw [halike.document] at hadd
      exact ⟨_, hadd, rfl, halike.ids, halike.stamps, halike.issues, halike.disks⟩
  | renderJson item snippet _ _ => exact renderJson_locked hproper item snippet
  | recovering _ ih => exact ih.recovering
  | further h => exact (hfurther _ _ h).1

end Build

namespace Generator

variable {g : Generator} {w : Workshop} {earlier : List Issue}

theorem writeDocument_locked {paths : List Path} {s : Comparison paths} (kind : ArtifactKind) {target : Path}
    (text : String) (hproper : target.IsProper) :
    Build.Locked s earlier (writeDocument w kind target text) := by
  intro b c b' r halike hrun hr hleads
  rw [writeDocument_run] at hrun
  cases hwrite : b.disk.writeText target text with
  | mk result disk =>
      rw [hwrite] at hrun
      cases result with
      | error e =>
          cases hrun
          exact absurd hr (Build.not_recoverable_disk e)
      | ok =>
          cases hrun
          obtain ⟨disk', hwrite', hrel⟩ :=
            s.writeText halike.disks hwrite hproper (by decide) (by simp [Fields.get?, List.lookup_cons]) hleads
          rw [writeDocument_run, hwrite']
          exact ⟨_, rfl, halike.onDisk (List.prefix_append _ _) hrel _⟩

/-- Making the generation directory is told of or not, depending on whether it is there. -/
theorem prepareDirectory_eq (g : Generator) (b : Bench) : ∃ j, b.journal.events <+: j.events ∧
    g.prepareDirectory.run b = match b.disk.prepare g.generationPath with
      | (.ok (), disk) => (.ok (), { b with disk := disk, journal := j })
      | (.error e, disk) => (.error (.disk e), { b with disk := disk, journal := j }) := by
  rw [prepareDirectory_run, Disk.prepare]
  split
  · exact ⟨b.journal, List.prefix_refl _, rfl⟩
  · refine ⟨b.journal.emit .debug logger "creating_generation_path" [("path", .string g.generationPath.toText)],
      List.prefix_append _ _, ?_⟩
    cases b.disk.ensureDirectory g.generationPath with
    | mk result disk => cases result <;> rfl

theorem prepareDirectory_locked {paths : List Path} (s : Comparison paths) (g : Generator) :
    Build.Locked s earlier g.prepareDirectory := by
  intro b c b' r halike hrun hr _
  obtain ⟨j, hj, hfirst⟩ := prepareDirectory_eq g b
  obtain ⟨k, _, hsecond⟩ := prepareDirectory_eq g c
  rw [hfirst] at hrun
  cases hprepare : b.disk.prepare g.generationPath with
  | mk result disk =>
      rw [hprepare] at hrun
      cases result with
      | error e =>
          cases hrun
          exact absurd hr (Build.not_recoverable_disk e)
      | ok =>
          cases hrun
          obtain ⟨disk', hprepare', hrel⟩ := s.prepare halike.disks hprepare
          rw [hsecond, hprepare']
          exact ⟨_, rfl, halike.onDisk hj hrel k⟩

variable (s : Comparison g.templatePaths)

theorem buildManager_locked (hregistry : g.registry.BuiltIn) (hproper : g.generationPath.IsProper)
    (m : ProcessManager) : Build.Locked s earlier (g.buildManager m) := by
  have hprepare : Build.Locked s earlier g.prepareDirectory := prepareDirectory_locked s g
  have hprepared : Build.IsTold g.prepareDirectory := prepareDirectory_told _ g
  cases hready : g.ready? m with
  | none =>
      refine (buildManager_of_not_ready hready none).locked (w := g.workshop m none) (s := s) hproper ?_
      intro β y hy
      cases hy with
      | prepare => exact ⟨hprepare, hprepared⟩
  | some resource =>
      obtain ⟨⟨flow, hflow⟩, _, heq⟩ := buildManager_of_ready hready
      have hcomposed := buildDocuments_composed hregistry hflow resource
      rw [heq]
      refine hprepare.bind fun _ _ _ _ => ⟨?_, terms_told hproper rfl hcomposed⟩
      refine hcomposed.locked (w := g.workshop m (some resource)) (s := s) hproper ?_
      intro β y hy
      cases hy with
      | onDocument f =>
          refine ⟨?_, fun b => .refl _ _⟩
          intro b c b' r halike hrun _ _
          cases hrun
          refine ⟨{ c with document := (f c.document).2 }, ?_, ?_⟩
          · change (Except.ok (f c.document).1, _) = _
            rw [halike.document]
          · refine ⟨?_, halike.ids, halike.stamps, halike.issues, halike.disks⟩
            change (f c.document).2 = _
            rw [halike.document]
      | write kind output houtput text =>
          have htarget := isProper_destination hproper output
          exact ⟨writeDocument_locked kind text htarget, fun b => writeDocument_told _ kind text b htarget trivial⟩
      | prepare => exact ⟨hprepare, hprepared⟩

end Generator

/-- The turn with its application's number counted on. -/
def Turn.renumber (number : Nat) : Turn → Turn
  | .idle application => .idle application
  | .build application index m => .build application (index.1 + number, index.2) m

/-- The stamps of a workflow whose application's number is counted on. -/
def Stamps.renumber (number : Nat) (entry : (Nat × Nat) × Stamps) : (Nat × Nat) × Stamps :=
  ((entry.1.1 + number, entry.1.2), entry.2)

/-- A run that has another one behind it, and one that starts afresh; the applications of the second are numbered from
a number on in the first. -/
structure Progress.Alike {paths : List Path} (s : Comparison paths) (base : Progress) (number : Nat)
    (p q : Progress) : Prop where
  issues : p.issues = base.issues ++ q.issues
  written : p.written = base.written ++ q.written
  workflows : p.workflows = base.workflows ++ q.workflows
  stamps : p.stamps = base.stamps ++ q.stamps.map (Stamps.renumber number)
  disks : s.rel p.journal p.disk q.disk

namespace Generator

variable {g : Generator}

theorem managerTurns_renumber (application : String) (number more index : Nat) (managers : List ProcessManager) :
    managerTurns application (number + more) index managers =
      (managerTurns application number index managers).map (Turn.renumber more) := by
  induction managers generalizing index with
  | nil => rfl
  | cons m rest ih =>
      rw [managerTurns, managerTurns, ih, List.map_cons]
      rfl

/-- The numbers of the applications make no other difference to the turns. -/
theorem turns_renumber (number more : Nat) (applications : List Application) :
    turns (number + more) applications = (turns number applications).map (Turn.renumber more) := by
  induction applications generalizing number with
  | nil => rfl
  | cons a rest ih =>
      rw [turns, turns, List.map_append, ← ih, managerTurns_renumber, Nat.add_right_comm]
      split
      · rfl
      · rfl

theorem runTurn_told_any (hregistry : g.registry.BuiltIn) (hproper : g.generationPath.IsProper)
    (cancel : Option (Nat → Bool)) (t : Turn) (p : Progress) :
    Told (fun _ => True) p.journal p.disk ((g.runTurn cancel t).run p).2.journal
      ((g.runTurn cancel t).run p).2.disk := by
  cases t with
  | idle application => exact .emit _ _ _ _ _ (by decide)
  | build application index m =>
      rw [runTurn, Run.run_bind]
      obtain ⟨checks, hcheck | hcheck⟩ := checkCancelled_run cancel m p
      · have htold := buildManager_told_any hregistry hproper m
          (({ p with checks := checks } : Progress).bench application m)
        rw [hcheck]
        dsimp only
        rw [runManager_run]
        refine Told.of_events ?_ ?_ htold
        · rfl
        · rfl
      · rw [hcheck]
        exact .emit _ _ _ _ _ (by decide)

theorem runTurns_told_any (hregistry : g.registry.BuiltIn) (hproper : g.generationPath.IsProper)
    (cancel : Option (Nat → Bool)) (ts : List Turn) (p : Progress) :
    Told (fun _ => True) p.journal p.disk ((g.runTurns cancel ts).run p).2.journal
      ((g.runTurns cancel ts).run p).2.disk :=
  g.runTurns_preserves cancel ts (R := fun p q => Told (fun _ => True) p.journal p.disk q.journal q.disk)
    (fun _ => .refl _ _) (fun h h' => h.trans h') (fun t _ p => runTurn_told_any hregistry hproper cancel t p) p

variable {s : Comparison g.templatePaths} {base : Progress} {number : Nat}

theorem runTurn_locked (hregistry : g.registry.BuiltIn) (hproper : g.generationPath.IsProper) {t : Turn}
    {p q p' : Progress} (halike : Progress.Alike s base number p q)
    (hrun : (g.runTurn none (t.renumber number)).run p = (.ok (), p')) (hleads : s.leads p'.journal p'.disk) :
    ∃ q', (g.runTurn none t).run q = (.ok (), q') ∧ Progress.Alike s base number p' q' := by
  cases t with
  | idle application =>
      cases hrun
      refine ⟨q.passedOver application, rfl, halike.issues, halike.written, halike.workflows, halike.stamps, ?_⟩
      exact s.rel_later halike.disks (List.prefix_append _ _)
  | build application index m =>
      rw [Turn.renumber, runTurn_build_run, runManager_run] at hrun
      rw [runTurn_build_run, runManager_run]
      have hbench : (p.bench application m).Alike s base.issues (q.bench application m) :=
        ⟨rfl, rfl, rfl, halike.issues, s.rel_later halike.disks (List.prefix_refl _)⟩
      cases hbuild : (g.buildManager m).run (p.bench application m) with
      | mk result c =>
          rw [hbuild] at hrun
          cases result with
          | error f => cases hrun
          | ok paths =>
              cases hrun
              have hunbind : Told (fun _ => True) c.journal c.disk
                  (c.journal.unbind ["workflow", "application"]) c.disk := by
                refine Told.of_events ?_ ?_ (.refl c.journal c.disk)
                · rfl
                · rfl
              obtain ⟨c', hbuild', hafter⟩ := buildManager_locked s hregistry hproper m hbench hbuild
                (Build.recoverable_ok paths) (s.leads_earlier hleads hunbind)
              rw [hbuild']
              refine ⟨_, rfl, hafter.issues, ?_, ?_, ?_, s.rel_later hafter.disks (List.prefix_refl _)⟩
              · change p.written ++ paths = base.written ++ (q.written ++ paths)
                rw [halike.written, List.append_assoc]
              · change p.workflows ++ [m.name] = base.workflows ++ (q.workflows ++ [m.name])
                rw [halike.workflows, List.append_assoc]
              · change p.stamps ++ [((index.1 + number, index.2), c.stamps)] =
                  base.stamps ++ (q.stamps ++ [(index, c'.stamps)]).map (Stamps.renumber number)
                rw [halike.stamps, List.map_append, List.append_assoc, hafter.stamps]
                rfl

/-- The second run does what the first one does, turn by turn. -/
theorem runTurns_locked (hregistry : g.registry.BuiltIn) (hproper : g.generationPath.IsProper) {ts : List Turn}
    {p q p' : Progress} (halike : Progress.Alike s base number p q)
    (hrun : (g.runTurns none (ts.map (Turn.renumber number))).run p = (.ok (), p'))
    (hleads : s.leads p'.journal p'.disk) :
    ∃ q', (g.runTurns none ts).run q = (.ok (), q') ∧ Progress.Alike s base number p' q' := by
  induction ts generalizing p q with
  | nil =>
      cases hrun
      exact ⟨q, rfl, halike⟩
  | cons t rest ih =>
      rw [List.map_cons, runTurns_cons_run] at hrun
      rw [runTurns_cons_run]
      cases hturn : (g.runTurn none (t.renumber number)).run p with
      | mk result between =>
          rw [hturn] at hrun
          cases result with
          | error stop => cases hrun
          | ok =>
              have htold := runTurns_told_any hregistry hproper none (rest.map (Turn.renumber number)) between
              dsimp only at hrun
              rw [hrun] at htold
              obtain ⟨between', hturn', halike'⟩ :=
                runTurn_locked hregistry hproper halike hturn (s.leads_earlier hleads htold)
              rw [hturn']
              exact ih halike' hrun

end Generator

end WorkflowForge
