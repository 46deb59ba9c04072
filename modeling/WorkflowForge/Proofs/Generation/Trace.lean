import WorkflowForge.Proofs.Assembly.Rendering
import WorkflowForge.Proofs.Files.PathText
import WorkflowForge.Proofs.Files.Writing
import WorkflowForge.Proofs.Generation.Steps

/-!
What the journal tells of the disk. Each file that the building of documents writes is told of by an event with its
path, and it is there afterwards; no other file is new or holds something else than before. Nothing is lost either. The
paths are the destinations of documents and the places where rendered texts are kept.
-/

namespace WorkflowForge

namespace Event

/-- The path that an event tells of. -/
def path? (e : Event) : Option Path :=
  match Fields.get? e.fields "path" with
  | some (.string s) => some (Path.ofText s)
  | _ => none

/-- The file that an event tells to have been written. -/
def writtenFile? (e : Event) : Option Path := if e.name ∈ tellingOfFiles then e.path? else none

/-- The files that events tell to have been written. -/
def writtenFiles (events : List Event) : List Path := events.filterMap writtenFile?

theorem writtenFiles_append (events more : List Event) :
    writtenFiles (events ++ more) = writtenFiles events ++ writtenFiles more :=
  List.filterMap_append

theorem writtenFiles_of_name {e : Event} (h : e.name ∉ tellingOfFiles) : writtenFiles [e] = [] := by
  simp [writtenFiles, writtenFile?, h]

theorem writtenFiles_of_path {e : Event} {p : Path} (hname : e.name ∈ tellingOfFiles) (hp : p.IsProper)
    (hpath : Fields.get? e.fields "path" = some (.string p.toText)) : writtenFiles [e] = [p] := by
  have hfile : e.writtenFile? = some p := by
    rw [writtenFile?, if_pos hname, path?, hpath]
    dsimp only
    rw [hp.ofText_toText]
  simp [writtenFiles, hfile]

end Event

theorem Issue.name_not_telling (i : Issue) : i.kind.name ∉ Event.tellingOfFiles := by
  cases i.kind <;> decide

open Event (writtenFiles writtenFiles_append)

/-- What the journal tells of what happened to the disk from one moment to another; all files written are allowed. -/
structure Told (allowed : Path → Prop) (j : Journal) (d : Disk) (k : Journal) (e : Disk) : Prop where
  grows : d.Grows e
  events : ∃ more, k.events = j.events ++ more ∧
    (∀ p ∈ writtenFiles more, allowed p ∧ ∃ content, e.entryAt? (d.place p) = some (.file content)) ∧
    ∀ l content, e.entryAt? l = some (.file content) →
      d.entryAt? l = some (.file content) ∨ ∃ p ∈ writtenFiles more, d.place p = l

namespace Told

variable {allowed : Path → Prop}

theorem refl (j : Journal) (d : Disk) : Told allowed j d j d :=
  ⟨.refl d, [], by simp, by simp [writtenFiles], fun _ _ h => .inl h⟩

theorem trans {j k l : Journal} {d e f : Disk} (h : Told allowed j d k e) (h' : Told allowed k e l f) :
    Told allowed j d l f := by
  obtain ⟨hgrows, more, hmore, hthere, hchanged⟩ := h
  obtain ⟨hgrows', more', hmore', hthere', hchanged'⟩ := h'
  refine ⟨hgrows.trans hgrows', more ++ more', by rw [hmore', hmore, List.append_assoc], ?_, ?_⟩
  · intro p hp
    rw [writtenFiles_append] at hp
    rcases List.mem_append.mp hp with hfirst | hsecond
    · obtain ⟨hallowed, _, hfile⟩ := hthere p hfirst
      exact ⟨hallowed, hgrows'.file hfile⟩
    · have hlast := hthere' p hsecond
      rwa [hgrows.place_eq] at hlast
  · intro m content hm
    rw [writtenFiles_append]
    rcases hchanged' m content hm with hbefore | ⟨p, hp, hplace⟩
    · rcases hchanged m content hbefore with hstart | ⟨p, hp, hplace⟩
      · exact .inl hstart
      · exact .inr ⟨p, List.mem_append_left _ hp, hplace⟩
    · rw [hgrows.place_eq] at hplace
      exact .inr ⟨p, List.mem_append_right _ hp, hplace⟩

theorem mono {more : Path → Prop} (h : ∀ p, allowed p → more p) {j k : Journal} {d e : Disk}
    (htold : Told allowed j d k e) : Told more j d k e := by
  obtain ⟨hgrows, events, hevents, hthere, hchanged⟩ := htold
  refine ⟨hgrows, events, hevents, ?_, hchanged⟩
  intro p hp
  exact ⟨h p (hthere p hp).1, (hthere p hp).2⟩

/-- The settings that are bound make no difference. -/
theorem of_events {j k j' k' : Journal} {d e : Disk} (hj : j'.events = j.events) (hk : k'.events = k.events)
    (h : Told allowed j d k e) : Told allowed j' d k' e := by
  obtain ⟨hgrows, more, hmore, hrest⟩ := h
  exact ⟨hgrows, more, by rw [hk, hj, hmore], hrest⟩

theorem emit (j : Journal) (d : Disk) (level : Level) (logger : String) {name : String} (fields : Fields)
    (hname : name ∉ Event.tellingOfFiles) : Told allowed j d (j.emit level logger name fields) d := by
  refine ⟨.refl d, [⟨level, logger, name, Journal.withBound j.bound fields⟩], rfl, ?_, fun _ _ h => .inl h⟩
  rw [Event.writtenFiles_of_name hname]
  simp

theorem makes (j : Journal) {d e : Disk} {locations : List Location} (h : Disk.Makes locations d e) :
    Told allowed j d j e :=
  ⟨h.grows, [], by simp, by simp [writtenFiles], fun l content hl => .inl ((h.file_iff l content).mp hl)⟩

/-- A file that is written and told of. -/
theorem writes (j : Journal) {d e : Disk} {target : Path} {content : Content} (h : Disk.Writes target content d e)
    (level : Level) (logger : String) {name : String} {fields : Fields} (hname : name ∈ Event.tellingOfFiles)
    (hpath : Fields.get? fields "path" = some (.string target.toText)) (hproper : target.IsProper)
    (hallowed : allowed target) : Told allowed j d (j.emit level logger name fields) e := by
  have hfield : Fields.get? (Journal.withBound j.bound fields) "path" = some (.string target.toText) := by
    rw [Journal.withBound, Fields.get?_append_of_mem _ (Fields.mem_names_of_get? hpath), hpath]
  have hwritten : writtenFiles [⟨level, logger, name, Journal.withBound j.bound fields⟩] = [target] :=
    Event.writtenFiles_of_path hname hproper hfield
  refine ⟨h.grows, [⟨level, logger, name, Journal.withBound j.bound fields⟩], rfl, ?_, ?_⟩
  · intro p hp
    rw [hwritten, List.mem_singleton] at hp
    subst hp
    exact ⟨hallowed, content, h.file_at⟩
  · intro l c hl
    rw [hwritten]
    by_cases hplace : l = d.place target
    · exact .inr ⟨target, List.mem_singleton_self _, hplace.symm⟩
    · exact .inl ((h.file_of_ne hplace).mp hl)

end Told

namespace Snippet

theorem findFile_eq_some {paths : List Path} {d : Disk} {file : String} {source : Path}
    (h : findFile paths d file = some source) :
    d.isFile source = true ∧ ∃ p ∈ paths, source = p.join (Path.ofText (Text.replaceChar '\\' '/' file)) := by
  unfold findFile at h
  refine ⟨List.find?_some h, ?_⟩
  obtain ⟨p, hp, heq⟩ := List.mem_map.mp (List.mem_of_find?_eq_some h)
  exact ⟨p, hp, heq.symm⟩

/-- The file that is found has a proper name, as it is not the working directory. -/
theorem isPart_name_of_findFile {paths : List Path} {d : Disk} {file : String} {source : Path}
    (hpaths : ∀ p ∈ paths, p.IsProper) (hd : d.Settled) (h : findFile paths d file = some source) :
    Path.IsPart source.name := by
  obtain ⟨hfile, p, hp, hsource⟩ := findFile_eq_some h
  have hproper : source.IsProper := by
    rw [hsource]
    exact (hpaths p hp).join (Path.isProper_ofText _)
  apply hproper.isPart_name
  intro hnil
  obtain ⟨content, hcontent⟩ := (d.isFile_iff _).mp hfile
  have hentry := ((d.readContent_eq_ok_iff _ _).mp hcontent).2
  rw [Disk.place, hnil, Path.follow, Disk.start] at hentry
  split at hentry
  · cases hentry
  · rw [hd] at hentry
    cases hentry

end Snippet

namespace Build

theorem isProper_nextTarget {w : Workshop} (h : w.generationPath.IsProper) (item : Option Item) (snippet : Snippet)
    (source : Path) (b : Bench) : (nextTarget w item snippet source b).IsProper :=
  (h.below _).below _

theorem keep_outcome (templated : Bool) (source target : Path) (text : String) (d : Disk) :
    Disk.Outcome target d (keep templated source target text d) := by
  unfold keep
  split
  · exact d.writeText_outcome target text
  · exact d.copyFile_outcome source target

theorem told_recorded {allowed : Path → Prop} (issue : Issue) (b : Bench) :
    Told allowed b.journal b.disk (recorded issue b).journal (recorded issue b).disk :=
  .emit _ _ _ _ _ issue.name_not_telling

/-- A text that is kept is told of. -/
theorem keep_told (allowed : Path → Prop) {templated : Bool} {source target : Path} {text : String} {d e : Disk}
    (hkeep : keep templated source target text d = (.ok (), e)) (hproper : target.IsProper) (hallowed : allowed target)
    (snippet : Snippet) (j : Journal) :
    Told allowed j d (j.emit .debug "flowsmith.snippets.resolver" "snippet_debug_output_written"
      [("snippet", .string snippet.resourceType), ("path", .string target.toText)]) e := by
  have houtcome := keep_outcome templated source target text d
  rw [hkeep] at houtcome
  cases houtcome with
  | written content hwrites =>
      refine Told.writes j hwrites _ _ (by decide) ?_ hproper hallowed
      simp [Fields.get?, List.lookup_cons]

/-- A rendering tells of the text that it keeps. -/
theorem renderJson_told {allowed : Path → Prop} {w : Workshop} (hproper : w.generationPath.IsProper)
    (item : Option Item) (snippet : Snippet) (b : Bench)
    (hallowed : ∀ source, Snippet.findFile w.templatePaths b.disk snippet.templateFile = some source →
      snippet.outputPath.getD "" ≠ "" → allowed (nextTarget w item snippet source b)) :
    Told allowed b.journal b.disk ((renderJson w item snippet true).run b).2.journal
      ((renderJson w item snippet true).run b).2.disk := by
  rw [renderJson_run]
  cases hfind : Snippet.findFile w.templatePaths b.disk snippet.templateFile with
  | none => exact told_recorded (missing w snippet) (numbered item b)
  | some source =>
      have hfound : Told allowed b.journal b.disk (Snippet.logFound snippet.templateFile source b.journal) b.disk :=
        .emit _ _ _ _ _ (by decide)
      dsimp only
      split
      · exact hfound
      · next text _ =>
          split
          · exact hfound
          · next houtput =>
              have htarget := hallowed source hfind houtput
              have houtcome := keep_outcome (Snippet.isTemplate w.suffixes source) source
                (nextTarget w item snippet source b) text b.disk
              cases hkeep : keep (Snippet.isTemplate w.suffixes source) source (nextTarget w item snippet source b) text
                  b.disk with
              | mk result disk =>
                  rw [hkeep] at houtcome
                  cases houtcome with
                  | written content _ =>
                      exact hfound.trans (keep_told _ hkeep (isProper_nextTarget hproper item snippet source b) htarget
                        snippet _)
                  | failed error hmakes => exact hfound.trans (.makes _ hmakes)

end Build

namespace Generator

/-- The paths that may be written to for a process manager: the destinations of its documents, and the places for the
texts of its snippets that say so, rendered for elements of its workflow. -/
inductive Targets (g : Generator) (m : ProcessManager) : Path → Prop
  | document {resource : ResourceTemplate} {kind : ArtifactKind} {output : String}
      (hresource : m.findResource Snippet.standardFamily = some resource)
      (houtput : outputOf? (g.workshop m (some resource)) kind = some output) : Targets g m (g.destination output)
  | inspection {snippet : Snippet} {flow : Workflow} {item : Item} {e : Element} {source : Path} {id : Int}
      {templated : Bool} (hsnippet : snippet ∈ m.snippets) (houtput : snippet.outputPath.getD "" ≠ "")
      (hflow : m.workflow = some flow) (he : e ∈ flow.elements) (hitem : item.subject.element? = some e)
      (hname : Path.IsPart source.name) :
      Targets g m (Build.inspectionPath (g.workshop m none) snippet (some item) source id templated)

variable {g : Generator} {m : ProcessManager}

theorem writeDocument_run (w : Workshop) (kind : ArtifactKind) (target : Path) (text : String) (b : Bench) :
    (writeDocument w kind target text).run b = match b.disk.writeText target text with
      | (.ok (), disk) =>
        (.ok (), { b with
          disk := disk
          journal := b.journal.emit .debug logger "artifact_written"
            [("workflow", .string w.manager.name), ("artifact", .string kind.name),
              ("path", .string target.toText)] })
      | (.error e, disk) => (.error (.disk e), { b with disk := disk }) :=
  Build.onDisk_debug_run _ _ _ _ b

theorem writeDocument_told {allowed : Path → Prop} (w : Workshop) (kind : ArtifactKind) {target : Path} (text : String)
    (b : Bench) (hproper : target.IsProper) (hallowed : allowed target) :
    Told allowed b.journal b.disk ((writeDocument w kind target text).run b).2.journal
      ((writeDocument w kind target text).run b).2.disk := by
  have houtcome := b.disk.writeText_outcome target text
  rw [writeDocument_run]
  cases hwrite : b.disk.writeText target text with
  | mk result disk =>
      rw [hwrite] at houtcome
      cases houtcome with
      | written content hwrites =>
          exact .writes _ hwrites _ _ (by decide) (by simp [Fields.get?, List.lookup_cons]) hproper hallowed
      | failed error hmakes => exact .makes _ hmakes

theorem prepareDirectory_run (g : Generator) (b : Bench) :
    g.prepareDirectory.run b =
      if b.disk.isDirectory g.generationPath then (.ok (), b)
      else match b.disk.ensureDirectory g.generationPath with
        | (.ok (), disk) =>
          (.ok (), { b with
            disk := disk
            journal := b.journal.emit .debug logger "creating_generation_path"
              [("path", .string g.generationPath.toText)] })
        | (.error e, disk) =>
          (.error (.disk e), { b with
            disk := disk
            journal := b.journal.emit .debug logger "creating_generation_path"
              [("path", .string g.generationPath.toText)] }) := by
  rw [prepareDirectory, Build.run_get_bind]
  by_cases hdirectory : b.disk.isDirectory g.generationPath = true
  · rw [if_pos hdirectory, if_neg (by simp [hdirectory])]
    rfl
  · have hlog (fields : Fields) : (Build.debug logger "creating_generation_path" fields).run b =
        (.ok (), { b with journal := b.journal.emit .debug logger "creating_generation_path" fields }) := rfl
    rw [if_neg hdirectory, if_pos (by simpa using hdirectory), Build.run_bind, hlog]
    exact Build.onDisk_run _ _

theorem prepareDirectory_told (allowed : Path → Prop) (g : Generator) (b : Bench) :
    Told allowed b.journal b.disk (g.prepareDirectory.run b).2.journal (g.prepareDirectory.run b).2.disk := by
  have hensures := b.disk.ensureDirectory_ensures g.generationPath
  rw [prepareDirectory_run]
  split
  · exact .refl _ _
  · cases hensure : b.disk.ensureDirectory g.generationPath with
    | mk result disk =>
        rw [hensure] at hensures
        have htold : Told allowed b.journal b.disk (b.journal.emit .debug logger "creating_generation_path"
            [("path", .string g.generationPath.toText)]) disk :=
          (Told.emit _ _ _ _ _ (by decide)).trans (.makes _ hensures.makes)
        cases result with
        | ok => exact htold
        | error e => exact htold

theorem isDirectory_of_prepareDirectory {g : Generator} {b c : Bench} (h : g.prepareDirectory.run b = (.ok (), c)) :
    c.disk.isDirectory g.generationPath = true := by
  have hensures := b.disk.ensureDirectory_ensures g.generationPath
  rw [prepareDirectory_run] at h
  split at h
  · next hdirectory =>
      cases h
      exact hdirectory
  · cases hensure : b.disk.ensureDirectory g.generationPath with
    | mk result disk =>
        rw [hensure] at h hensures
        cases result with
        | ok =>
            cases h
            exact hensures.isDirectory rfl
        | error e => cases h

end Generator

/-- What all steps of a build tell, the build tells. The disk may be taken to have a property that is never lost. -/
theorem Build.Composed.told {allowed : Path → Prop} {w : Workshop} {t : Terms} {within : List String} {α : Type}
    {x : Build α} {post : α → Prop} (hx : Composed w t within x post) (hproper : w.generationPath.IsProper)
    (lasting : Disk → Prop) (hlasting : ∀ {d e : Disk}, d.Grows e → lasting d → lasting e)
    (hrender : ∀ (b : Bench) item snippet source, lasting b.disk → snippet ∈ w.manager.snippets →
      t.renders item → Snippet.findFile w.templatePaths b.disk snippet.templateFile = some source →
      snippet.outputPath.getD "" ≠ "" → allowed (nextTarget w item snippet source b))
    (hfurther : ∀ (β : Type) (y : Build β) b, t.further β y →
      Told allowed b.journal b.disk (y.run b).2.journal (y.run b).2.disk)
    (b : Bench) (hb : lasting b.disk) : Told allowed b.journal b.disk (x.run b).2.journal (x.run b).2.disk := by
  refine Composed.preserves
    (R := fun b c => lasting b.disk → Told allowed b.journal b.disk c.journal c.disk) ?_ ?_ ?_ ?_ ?_ ?_ ?_ hx b hb
  · intro b _
    exact .refl _ _
  · intro a b c hab hbc ha
    exact (hab ha).trans (hbc (hlasting (hab ha).grows ha))
  · intro b level logger name fields hname _
    exact .emit _ _ _ _ _ hname
  · intro b kind message path _
    exact told_recorded _ b
  · intro b s name body _
    exact .refl _ _
  · intro b item snippet hsnippet hitem hb
    apply renderJson_told hproper
    intro source hsource houtput
    exact hrender b item snippet source hb hsnippet hitem hsource houtput
  · intro β y b hy _
    exact hfurther β y b hy

/-- The same where no file is ruled out. -/
theorem Build.Composed.told_any {w : Workshop} {t : Terms} {within : List String} {α : Type} {x : Build α}
    {post : α → Prop} (hx : Composed w t within x post) (hproper : w.generationPath.IsProper)
    (hfurther : ∀ (β : Type) (y : Build β) b, t.further β y →
      Told (fun _ => True) b.journal b.disk (y.run b).2.journal (y.run b).2.disk) (b : Bench) :
    Told (fun _ => True) b.journal b.disk (x.run b).2.journal (x.run b).2.disk :=
  hx.told hproper (fun _ => True) (fun _ h => h) (fun _ _ _ _ _ _ _ _ _ => trivial) hfurther b trivial

namespace Generator

variable {g : Generator} {m : ProcessManager}

theorem isProper_destination (h : g.generationPath.IsProper) (output : String) : (g.destination output).IsProper :=
  h.below _

theorem buildDocuments_told (hregistry : g.registry.BuiltIn) (hproper : g.generationPath.IsProper)
    (hpaths : ∀ p ∈ g.templatePaths, p.IsProper) {flow : Workflow} (hflow : m.workflow = some flow)
    {resource : ResourceTemplate} (hresource : m.findResource Snippet.standardFamily = some resource) (b : Bench)
    (hb : b.disk.Settled) :
    Told (g.Targets m) b.journal b.disk ((g.buildDocuments m resource).run b).2.journal
      ((g.buildDocuments m resource).run b).2.disk := by
  refine (buildDocuments_composed hregistry hflow resource).told hproper Disk.Settled Disk.Grows.settled ?_ ?_ b hb
  · intro c item snippet source hc hsnippet hitem hsource houtput
    obtain ⟨other, i, hother, rfl, e, hsome, hat⟩ := hitem
    have he : e ∈ other.elements := Workflow.mem_elements_of_elementAt? hat
    exact .inspection hsnippet houtput hother he hsome (Snippet.isPart_name_of_findFile hpaths hc hsource)
  · intro β y c hy
    cases hy with
    | onDocument f => exact .refl _ _
    | write kind output houtput text =>
        exact writeDocument_told _ _ _ _ (isProper_destination hproper output) (.document hresource houtput)
    | prepare => exact prepareDirectory_told _ g c

/-- What the building of a process manager tells: it writes to its targets alone, and only once the generation path is
a directory. -/
theorem buildManager_told (hregistry : g.registry.BuiltIn) (hproper : g.generationPath.IsProper)
    (hpaths : ∀ p ∈ g.templatePaths, p.IsProper) (m : ProcessManager) (b : Bench) (hb : b.disk.Settled) :
    Told (fun p => g.Targets m p ∧ ((g.buildManager m).run b).2.disk.isDirectory g.generationPath = true)
      b.journal b.disk ((g.buildManager m).run b).2.journal ((g.buildManager m).run b).2.disk := by
  cases hready : g.ready? m with
  | none =>
      refine (buildManager_of_not_ready hready none).told hproper Disk.Settled Disk.Grows.settled ?_ ?_ b hb
      · intro _ _ _ _ _ _ hitem
        exact hitem.elim
      · intro β y c hy
        cases hy with
        | prepare => exact prepareDirectory_told _ g c
  | some resource =>
      obtain ⟨⟨flow, hflow⟩, hresource, heq⟩ := buildManager_of_ready hready
      rw [heq, Build.run_bind]
      have hprepare := prepareDirectory_told (fun _ => False) g b
      cases hrun : g.prepareDirectory.run b with
      | mk result c =>
          rw [hrun] at hprepare
          cases result with
          | error e => exact hprepare.mono fun _ => False.elim
          | ok =>
              have htold := buildDocuments_told hregistry hproper hpaths hflow hresource c (hprepare.grows.settled hb)
              have hdirectory := htold.grows.isDirectory (isDirectory_of_prepareDirectory hrun)
              exact (hprepare.mono fun _ => False.elim).trans (htold.mono fun p hp => ⟨hp, hdirectory⟩)

end Generator

/-- The events of a journal go on from those of another, and tell of the given files. -/
def Journal.Tells (j k : Journal) (files : List Path) : Prop :=
  ∃ more, k.events = j.events ++ more ∧ ∀ p ∈ files, p ∈ writtenFiles more

namespace Journal.Tells

theorem refl (j : Journal) : j.Tells j [] := ⟨[], by simp, by simp⟩

theorem trans {j k l : Journal} {files more : List Path} (h : j.Tells k files) (h' : k.Tells l more) :
    j.Tells l (files ++ more) := by
  obtain ⟨first, hfirst, hfiles⟩ := h
  obtain ⟨second, hsecond, hmore⟩ := h'
  refine ⟨first ++ second, by rw [hsecond, hfirst, List.append_assoc], ?_⟩
  intro p hp
  rw [writtenFiles_append]
  rcases List.mem_append.mp hp with hp | hp
  · exact List.mem_append_left _ (hfiles p hp)
  · exact List.mem_append_right _ (hmore p hp)

theorem of_events {j k j' k' : Journal} {files : List Path} (hj : j'.events = j.events) (hk : k'.events = k.events)
    (h : j.Tells k files) : j'.Tells k' files := by
  obtain ⟨more, hmore, hfiles⟩ := h
  exact ⟨more, by rw [hk, hj, hmore], hfiles⟩

end Journal.Tells

theorem Told.tells {allowed : Path → Prop} {j k : Journal} {d e : Disk} (h : Told allowed j d k e) : j.Tells k [] := by
  obtain ⟨_, more, hmore, _⟩ := h
  exact ⟨more, hmore, by simp⟩

namespace Generator

variable {g : Generator} {w : Workshop}

theorem terms_told (hproper : g.generationPath.IsProper) (hw : w.generationPath = g.generationPath)
    {within : List String} {α : Type} {x : Build α} {post : α → Prop}
    (hx : Build.Composed w (g.terms w) within x post) (b : Bench) :
    Told (fun _ => True) b.journal b.disk (x.run b).2.journal (x.run b).2.disk := by
  refine hx.told_any (by rw [hw]; exact hproper) ?_ b
  intro β y c hy
  cases hy with
  | onDocument f => exact .refl _ _
  | write kind output houtput text =>
      exact writeDocument_told _ _ _ _ (isProper_destination hproper output) trivial
  | prepare => exact prepareDirectory_told _ g c

theorem buildManager_told_any (hregistry : g.registry.BuiltIn) (hproper : g.generationPath.IsProper)
    (m : ProcessManager) (b : Bench) :
    Told (fun _ => True) b.journal b.disk ((g.buildManager m).run b).2.journal ((g.buildManager m).run b).2.disk :=
  terms_told hproper rfl (buildManager_composed hregistry m) b

theorem writeDocument_tells {kind : ArtifactKind} {target : Path} {text : String} {b c : Bench}
    (hproper : target.IsProper) (hrun : (writeDocument w kind target text).run b = (.ok (), c)) :
    b.journal.Tells c.journal [target] := by
  rw [writeDocument_run] at hrun
  cases hwrite : b.disk.writeText target text with
  | mk result disk =>
      rw [hwrite] at hrun
      cases result with
      | error e => cases hrun
      | ok =>
          cases hrun
          refine ⟨_, rfl, ?_⟩
          intro p hp
          have hfield : Fields.get? (Journal.withBound b.journal.bound [("workflow", .string w.manager.name),
              ("artifact", .string kind.name), ("path", .string target.toText)]) "path" =
                some (.string target.toText) := by
            simp [Journal.withBound, Fields.get?, List.lookup_cons]
          rw [List.mem_singleton] at hp
          rw [Event.writtenFiles_of_path (p := target) (by simp [Event.tellingOfFiles]) hproper hfield, hp]
          exact List.mem_singleton_self _

/-- The path that the building of a document gives is told of. -/
theorem buildArtifact_tells (hregistry : g.registry.BuiltIn) (hproper : g.generationPath.IsProper)
    (hw : w.generationPath = g.generationPath) {flow : Workflow} (hflow : w.manager.workflow = some flow)
    {kind : ArtifactKind} {b c : Bench} {written : Option Path}
    (hrun : (g.buildArtifact w kind).run b = (.ok written, c)) : b.journal.Tells c.journal written.toList := by
  cases written with
  | none =>
      have htold := terms_told hproper hw (buildArtifact_composed hregistry hflow kind) b
      rw [hrun] at htold
      exact htold.tells
  | some target =>
      obtain ⟨document, d, hdraft, hwrite⟩ := buildArtifact_eq_some hrun
      have hcomposed := draft_composed (g.terms_drafts w) hregistry hflow kind
      have hdrafted := terms_told hproper hw hcomposed b
      rw [hdraft] at hdrafted
      obtain ⟨output, _, htarget⟩ := hcomposed.post hdraft target document rfl
      have hdestination : target.IsProper := by
        rw [htarget]
        exact isProper_destination hproper output
      exact hdrafted.tells.trans (writeDocument_tells hdestination hwrite)

theorem buildArtifacts_tells (hregistry : g.registry.BuiltIn) (hproper : g.generationPath.IsProper)
    (hw : w.generationPath = g.generationPath) {flow : Workflow} (hflow : w.manager.workflow = some flow)
    {kinds : List ArtifactKind} {b c : Bench} {written : List Path}
    (hrun : (g.buildArtifacts w kinds).run b = (.ok written, c)) : b.journal.Tells c.journal written := by
  induction kinds generalizing b written with
  | nil =>
      cases hrun
      exact .refl _
  | cons kind rest ih =>
      obtain ⟨first, d, hfirst, hrun⟩ := Build.run_bind_ok hrun
      obtain ⟨others, e, hothers, hrun⟩ := Build.run_bind_ok hrun
      cases hrun
      have htold := terms_told hproper hw (.recovering (buildArtifact_composed hregistry hflow kind)) b
      have hattempt : (Build.recovering w (g.buildArtifact w kind)).run b = (.ok first, d) := hfirst
      have hone : b.journal.Tells d.journal first.toList := by
        rw [hattempt] at htold
        rw [Build.recovering_run] at hattempt
        split at hattempt
        · cases hattempt
          exact htold.tells
        · exact buildArtifact_tells hregistry hproper hw hflow hattempt
      exact hone.trans (ih hothers)

/-- The paths that the building of a process manager gives are told of. -/
theorem buildManager_tells (hregistry : g.registry.BuiltIn) (hproper : g.generationPath.IsProper)
    {m : ProcessManager} {b c : Bench} {written : List Path}
    (hrun : (g.buildManager m).run b = (.ok written, c)) :
    b.journal.Tells c.journal written := by
  cases hready : g.ready? m with
  | none =>
      have htold := buildManager_told_any hregistry hproper m b
      have hnone := (buildManager_of_not_ready hready none).post hrun
      rw [hrun] at htold
      rw [hnone]
      exact htold.tells
  | some resource =>
      obtain ⟨⟨flow, hflow⟩, hresource, heq⟩ := buildManager_of_ready hready
      rw [heq] at hrun
      obtain ⟨_, d, hprepare, hrun⟩ := Build.run_bind_ok hrun
      obtain ⟨_, e, hlog, hrun⟩ := Build.run_bind_ok hrun
      cases hlog
      have hprepared := prepareDirectory_told (fun _ => True) g b
      rw [hprepare] at hprepared
      have hlogged : Told (fun _ => True) d.journal d.disk (d.journal.emit .info logger "generating_workflow"
          [("workflow", .string m.name)]) d.disk := .emit _ _ _ _ _ (by decide)
      have hwritten := buildArtifacts_tells (b := { d with journal := d.journal.emit .info logger _ _ }) hregistry
        hproper rfl hflow hrun
      exact (hprepared.tells.trans hlogged.tells).trans hwritten

end Generator

end WorkflowForge
