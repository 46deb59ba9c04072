import WorkflowForge.Proofs.Generation.Faults
import WorkflowForge.Proofs.Generation.Lockstep

/-!
Process managers do not influence each other. A run over two lists of applications reports what the runs over each of
them report, one after the other, as long as no snippet is looked for where the run writes: the second list is built in
lockstep with a run of its own on the disk as it was at first.

Looking for a file also depends on directories. A path that leaves a directory by a double dot can be walked only where
that directory is there, so a search through a directory that the first applications make finds what it would not have
found before. Such searches have to be left out as well.
-/

namespace WorkflowForge

open Event (writtenFiles)

/-- The paths up to the first that is written like a text. -/
def Path.upTo (text : String) : List Path → List Path
  | [] => []
  | p :: rest => if p.toText = text then [p] else p :: upTo text rest

/-- A search that looks at the same paths with the same answers finds the same. -/
theorem Path.find?_congr_upTo {paths : List Path} (hproper : ∀ p ∈ paths, p.IsProper) {f f' : Path → Bool}
    {source : Path} (hfind : paths.find? f = some source) (hsame : ∀ q ∈ upTo source.toText paths, f q = f' q) :
    paths.find? f' = some source ∧ source ∈ upTo source.toText paths := by
  induction paths with
  | nil => cases hfind
  | cons p rest ih =>
      rw [List.forall_mem_cons] at hproper
      rw [upTo] at hsame ⊢
      rw [List.find?_cons] at hfind ⊢
      cases hp : f p with
      | true =>
          rw [hp] at hfind
          cases hfind
          rw [if_pos rfl] at hsame ⊢
          rw [← hsame source (List.mem_singleton_self source), hp]
          exact ⟨rfl, List.mem_singleton_self source⟩
      | false =>
          rw [hp] at hfind
          have hother : p.toText ≠ source.toText := by
            intro htext
            have hsource := hproper.2 source (List.mem_of_find?_eq_some hfind)
            have heq := congrArg Path.ofText htext
            rw [hproper.1.ofText_toText, hsource.ofText_toText] at heq
            have hfound := List.find?_some hfind
            rw [← heq, hp] at hfound
            cases hfound
          rw [if_neg hother] at hsame ⊢
          rw [List.forall_mem_cons] at hsame
          obtain ⟨hrest, hmem⟩ := ih hproper.2 hfind hsame.2
          rw [← hsame.1, hp]
          exact ⟨hrest, List.mem_cons_of_mem _ hmem⟩

namespace Snippet

/-- Where a file is looked for, in that order. -/
def candidates (paths : List Path) (file : String) : List Path :=
  paths.map (·.join (Path.ofText (Text.replaceChar '\\' '/' file)))

theorem isProper_of_mem_candidates {paths : List Path} (hpaths : ∀ p ∈ paths, p.IsProper) {file : String} {q : Path}
    (hq : q ∈ candidates paths file) : q.IsProper := by
  obtain ⟨p, hp, rfl⟩ := List.mem_map.mp hq
  exact (hpaths p hp).join (Path.isProper_ofText _)

/-- The file that the message about a missing one names. -/
def namedFile (message : String) : String :=
  String.ofList ((message.toList.drop "Snippet file '".length).take
    (message.toList.length - "Snippet file '' was not found on any template path".length))

theorem namedFile_message (file : String) :
    namedFile s!"Snippet file '{file}' was not found on any template path" = file := by
  have hmessage : (s!"Snippet file '{file}' was not found on any template path").toList =
      "Snippet file '".toList ++ (file.toList ++ "' was not found on any template path".toList) := by
    simp [toString]
  have hfirst : "Snippet file '".length = "Snippet file '".toList.length := by decide
  have hlength : ("Snippet file '".toList ++ (file.toList ++ "' was not found on any template path".toList)).length -
      "Snippet file '' was not found on any template path".length = file.toList.length := by
    have hframe : "Snippet file '' was not found on any template path".length =
        "Snippet file '".toList.length + "' was not found on any template path".toList.length := by decide
    rw [List.length_append, List.length_append, hframe]
    omega
  rw [namedFile, hmessage, hlength, hfirst, List.drop_left, List.take_left, String.ofList_toList]

end Snippet

namespace Event

/-- The paths that the search of a snippet looked at, as the event tells that ends it. -/
def lookups (paths : List Path) (e : Event) : List Path :=
  if e.name = "snippet_file_found" then
    match Fields.get? e.fields "template_file", Fields.get? e.fields "path" with
    | some (.string file), some (.string found) => Path.upTo found (Snippet.candidates paths file)
    | _, _ => []
  else if e.name = "missing_snippet" then
    match Fields.get? e.fields "detail" with
    | some (.string message) => Snippet.candidates paths (Snippet.namedFile message)
    | _ => []
  else []

end Event

/-- A path that is not affected by what happened from one moment to another: no file was written in its place, and no
directory made that it leaves by a double dot. -/
def Disk.Undisturbed (before after : Disk) (events : List Event) (q : Path) : Prop :=
  (∀ p ∈ writtenFiles events, before.place p ≠ before.place q) ∧
    ∀ l ∈ before.leftUp q, after.entryAt? l = some .directory → before.entryAt? l = some .directory

/-- Snippets were only looked for where nothing happened. -/
def Disk.Quiet (paths : List Path) (before after : Disk) (events : List Event) : Prop :=
  ∀ e ∈ events, ∀ q ∈ e.lookups paths, before.Undisturbed after events q

instance (before after : Disk) (events : List Event) (q : Path) : Decidable (before.Undisturbed after events q) :=
  inferInstanceAs (Decidable (_ ∧ _))

instance (paths : List Path) (before after : Disk) (events : List Event) :
    Decidable (before.Quiet paths after events) :=
  inferInstanceAs (Decidable (∀ e ∈ events, ∀ q ∈ e.lookups paths, before.Undisturbed after events q))

theorem Journal.lookups_logFound (paths : List Path) (file : String) (source : Path) (bound : Fields) :
    Event.lookups paths ⟨.debug, "flowsmith.snippets.repository", "snippet_file_found",
        withBound bound [("template_file", .string file), ("path", .string source.toText)]⟩ =
      Path.upTo source.toText (Snippet.candidates paths file) := by
  simp [Event.lookups, withBound, Fields.get?, List.lookup_cons]

theorem Journal.lookups_missing (paths : List Path) (w : Workshop) (snippet : Snippet) (bound : Fields) :
    Event.lookups paths ⟨(Build.missing w snippet).severity.level, "flowsmith.issues",
        (Build.missing w snippet).kind.name,
        withBound bound [("workflow", .string (Build.missing w snippet).workflow),
          ("detail", .string (Build.missing w snippet).message),
          ("path", ((Build.missing w snippet).path.map Json.string).getD .null)]⟩ =
      Snippet.candidates paths snippet.templateFile := by
  have hmessage := Snippet.namedFile_message snippet.templateFile
  simp only [Event.lookups, withBound, Fields.get?, List.cons_append, List.lookup_cons]
  simp [Build.missing, IssueKind.name, hmessage]

/-- An event that comes after so many others is among those that are left without them. -/
theorem Journal.mem_drop_of_prefix {j k : Journal} {e : Event} {offset : Nat} (h : j.events ++ [e] <+: k.events)
    (hoffset : offset ≤ j.events.length) : e ∈ k.events.drop offset := by
  obtain ⟨rest, hrest⟩ := h
  rw [← hrest, List.append_assoc, List.drop_append_of_le_length hoffset]
  exact List.mem_append_right _ List.mem_cons_self

/-- The places where files are written, as events tell. -/
def Disk.writtenPlace (before : Disk) (events : List Event) (l : Location) : Prop :=
  ∃ p ∈ writtenFiles events, before.place p = l

theorem Disk.Undisturbed.not_writtenPlace {before after : Disk} {events : List Event} {q : Path}
    (h : before.Undisturbed after events q) : ¬ before.writtenPlace events (before.place q) := by
  rintro ⟨p, hp, heq⟩
  exact h.1 p hp heq

/-- What is read on two disks side by side at a path that stays undisturbed to the end. -/
theorem Disk.Coupled.readContent_of_undisturbed {start d e final : Disk} {events : List Event} {q : Path}
    (h : Coupled start (start.writtenPlace events) d e) (hstart : start.WellFormed) (hfinal : d.Grows final)
    (hq : start.Undisturbed final events q) (content : Content) :
    d.readContent q = .ok content ↔ e.readContent q = .ok content :=
  h.readContent_iff hstart hq.not_writtenPlace (fun l hl hd => hq.2 l hl (hfinal.directory hd)) content

theorem Disk.Coupled.isFile_of_undisturbed {start d e final : Disk} {events : List Event} {q : Path}
    (h : Coupled start (start.writtenPlace events) d e) (hstart : start.WellFormed) (hfinal : d.Grows final)
    (hq : start.Undisturbed final events q) : d.isFile q = e.isFile q := by
  rw [Bool.eq_iff_iff, isFile_iff, isFile_iff]
  exact exists_congr fun content => h.readContent_of_undisturbed hstart hfinal hq content

/-- The file that an event tells to have been written is one of those that all events tell of. -/
theorem Event.writtenPlace_of_mem (start : Disk) {events : List Event} {level : Level} {logger name : String}
    {bound fields : Fields} {target : Path} (hproper : target.IsProper) (hname : name ∈ Event.tellingOfFiles)
    (hpath : Fields.get? fields "path" = some (.string target.toText))
    (hmem : ⟨level, logger, name, Journal.withBound bound fields⟩ ∈ events) :
    start.writtenPlace events (start.place target) := by
  refine ⟨target, List.mem_filterMap.mpr ⟨_, hmem, ?_⟩, rfl⟩
  have hfield : Fields.get? (Journal.withBound bound fields) "path" = some (.string target.toText) := by
    rw [Journal.withBound, Fields.get?_append_of_mem _ (Fields.mem_names_of_get? hpath), hpath]
  rw [Event.writtenFile?, if_pos hname, Event.path?, hfield]
  dsimp only
  rw [hproper.ofText_toText]

/-- A run whose searches are undisturbed to its end, and one on the disk as it was at the start. -/
def Comparison.beside {paths : List Path} (hpaths : ∀ p ∈ paths, p.IsProper) {start : Disk} (hstart : start.WellFormed)
    (offset : Nat) (journal : Journal) (final : Disk)
    (hquiet : start.Quiet paths final (journal.events.drop offset)) : Comparison paths where
  rel j d e := offset ≤ j.events.length ∧ Disk.Coupled start (start.writtenPlace (journal.events.drop offset)) d e
  leads j d := j.events <+: journal.events ∧ d.Grows final
  rel_later h hevents := ⟨h.1.trans hevents.length_le, h.2⟩
  leads_earlier h htold := by
    obtain ⟨hgrows, more, hmore, _⟩ := htold
    exact ⟨(List.prefix_append _ more).trans (hmore ▸ h.1), hgrows.trans h.2⟩
  found {j d e file source} h hleads hfind := by
    have hlooked := hquiet _ (Journal.mem_drop_of_prefix hleads.1 h.1)
    rw [Journal.lookups_logFound] at hlooked
    obtain ⟨hfind', hmem⟩ := Path.find?_congr_upTo
      (fun q hq => Snippet.isProper_of_mem_candidates hpaths hq) hfind
      fun q hq => h.2.isFile_of_undisturbed hstart hleads.2 (hlooked q hq)
    obtain ⟨content, hcontent⟩ := (d.isFile_iff _).mp (Snippet.findFile_eq_some hfind).1
    have hread := (h.2.readContent_of_undisturbed hstart hleads.2 (hlooked source hmem) content).mp hcontent
    exact ⟨hfind', hcontent.trans hread.symm⟩
  missing {j d e w snippet} h hleads hfind := by
    have hlooked := hquiet _ (Journal.mem_drop_of_prefix hleads.1 h.1)
    rw [Journal.lookups_missing] at hlooked
    refine List.find?_eq_none.mpr fun q hq => ?_
    rw [← h.2.isFile_of_undisturbed hstart hleads.2 (hlooked q hq)]
    exact List.find?_eq_none.mp hfind q hq
  writeText h hrun hproper hname hpath hleads := by
    have hplace := Event.writtenPlace_of_mem start hproper hname hpath
      (Journal.mem_drop_of_prefix hleads.1 h.1)
    obtain ⟨e', hwrite, hcoupled⟩ := h.2.writeText hplace hrun
    exact ⟨e', hwrite, h.1, hcoupled⟩
  copyFile h hrun hread hread' hproper hname hpath hleads := by
    have hplace := Event.writtenPlace_of_mem start hproper hname hpath
      (Journal.mem_drop_of_prefix hleads.1 h.1)
    obtain ⟨e', hcopy, hcoupled⟩ := h.2.copyFile hplace hread hread' hrun
    exact ⟨e', hcopy, h.1, hcoupled⟩
  prepare h hrun := by
    obtain ⟨e', hprepare, hcoupled⟩ := h.2.prepare hrun
    exact ⟨e', hprepare, h.1, hcoupled⟩

namespace Generator

/-- A generation for some applications, on a disk. -/
def generation (g : Generator) (target : Target) (journal : Journal) (disk : Disk) (applications : List Application) :
    Except Stop Report × Progress :=
  (g.generate none ⟨target, applications⟩).run (Progress.start disk journal 0)

/-- From one moment of a run to another a process manager is built, with numbers that start afresh, and the issues that
are recorded meanwhile carry its name. -/
def BuildsAfresh (g : Generator) (index : Nat × Nat) (m : ProcessManager) (p q : Progress) : Prop :=
  ∃ j written c, (g.buildManager m).run ⟨.null, 0, [], p.issues, j, p.disk⟩ = (.ok written, c) ∧
    q.written = p.written ++ written ∧ q.stamps = p.stamps ++ [(index, c.stamps)] ∧ q.issues = c.issues ∧
    Issue.Added m.name p.issues q.issues

variable {g : Generator} {target : Target} {journal : Journal} {disk : Disk}

theorem generation_of_run {applications : List Application} {q : Progress} (htarget : target.hostsStandard = true)
    (hrun : (g.runTurns none (turns 0 applications)).run (Progress.start disk journal 0) = (.ok (), q)) :
    g.generation target journal disk applications =
      (if q.report.isSuccess then .ok q.report else .error (.failed q.report),
        { q with journal := logCompletion q.report q.journal }) := by
  rw [generation, generate_run, if_pos htarget, hrun]

/-- A generation that meets with no fault is a run to the end of all turns. -/
theorem exists_run_of_no_fault (hregistry : g.registry.BuiltIn) {applications : List Application}
    (htarget : target.hostsStandard = true)
    (h : ∀ f, (g.generation target journal disk applications).1 ≠ .error (.fault f)) :
    ∃ q, (g.runTurns none (turns 0 applications)).run (Progress.start disk journal 0) = (.ok (), q) :=
  exists_run_of_faultless (p := Progress.start disk journal 0) hregistry htarget h

/-- A run of turns to their end is one of the first turns and then of the others. -/
theorem runTurns_append_ok {ts others : List Turn} {p q : Progress}
    (hrun : (g.runTurns none (ts ++ others)).run p = (.ok (), q)) :
    ∃ r, (g.runTurns none ts).run p = (.ok (), r) ∧ (g.runTurns none others).run r = (.ok (), q) := by
  rw [runTurns_append, Run.run_bind] at hrun
  cases hfirst : (g.runTurns none ts).run p with
  | mk result r =>
      rw [hfirst] at hrun
      cases result with
      | ok => exact ⟨r, rfl, hrun⟩
      | error stop => cases hrun

theorem buildsAfresh_of_runTurn (hregistry : g.registry.BuiltIn) {application : String} {index : Nat × Nat}
    {m : ProcessManager} {p q : Progress} (hrun : (g.runTurn none (.build application index m)).run p = (.ok (), q)) :
    g.BuildsAfresh index m p q := by
  rw [runTurn_build_run, runManager_run] at hrun
  have hadded := buildManager_added hregistry m (p.bench application m)
  cases hbuild : (g.buildManager m).run (p.bench application m) with
  | mk result c =>
      rw [hbuild] at hrun hadded
      cases result with
      | error f => cases hrun
      | ok written =>
          cases hrun
          exact ⟨_, written, c, hbuild, rfl, rfl, rfl, hadded⟩

/-- Each process manager of a run to the end has its turn, and is built afresh. -/
theorem exists_turn_of_run (hregistry : g.registry.BuiltIn) {before after : List Turn} {application : String}
    {index : Nat × Nat} {m : ProcessManager} {p q : Progress}
    (hrun : (g.runTurns none (before ++ .build application index m :: after)).run p = (.ok (), q)) :
    ∃ r r', (g.runTurns none before).run p = (.ok (), r) ∧
      (g.runTurn none (.build application index m)).run r = (.ok (), r') ∧ g.BuildsAfresh index m r r' := by
  obtain ⟨r, hbefore, hrest⟩ := runTurns_append_ok hrun
  rw [runTurns_cons_run] at hrest
  cases hturn : (g.runTurn none (.build application index m)).run r with
  | mk result r' =>
      rw [hturn] at hrest
      cases result with
      | error stop => cases hrest
      | ok => exact ⟨r, r', hbefore, hturn, buildsAfresh_of_runTurn hregistry hturn⟩

/-- The run over the first applications leaves a disk beside the one at the start. -/
theorem coupled_of_run (hregistry : g.registry.BuiltIn) (hproper : g.generationPath.IsProper)
    (hpaths : ∀ p ∈ g.templatePaths, p.IsProper) (hdisk : disk.WellFormed) {applications : List Application}
    {p : Progress} (k : Journal) (final : Disk)
    (hquiet : disk.Quiet g.templatePaths final (k.events.drop journal.events.length))
    (hrun : (g.runTurns none (turns 0 applications)).run (Progress.start disk journal 0) = (.ok (), p))
    (hleads : p.journal.events <+: k.events ∧ p.disk.Grows final) :
    Disk.Coupled disk (disk.writtenPlace (k.events.drop journal.events.length)) p.disk disk := by
  -- in lockstep with itself: what the disk has at the end was there or was told of
  have hstart : Disk.Coupled disk (disk.writtenPlace (k.events.drop journal.events.length)) disk disk :=
    ⟨hdisk, hdisk, .refl _, .refl _, fun _ _ h => .inl h, fun _ _ h => .inl h⟩
  let s := Comparison.beside hpaths hdisk journal.events.length k final hquiet
  have halike : Progress.Alike s (Progress.start disk journal 0) 0 (Progress.start disk journal 0)
      (Progress.start disk journal 0) := ⟨rfl, rfl, rfl, rfl, Nat.le_refl _, hstart⟩
  have hsame := turns_renumber 0 0 applications
  rw [Nat.add_zero] at hsame
  rw [hsame] at hrun
  obtain ⟨_, _, hafter⟩ := runTurns_locked hregistry hproper halike hrun hleads
  have hcoupled := hafter.disks.2
  have htold := runTurns_told_any hregistry hproper none ((turns 0 applications).map (Turn.renumber 0))
    (Progress.start disk journal 0)
  rw [hrun] at htold
  exact ⟨hcoupled.larger, hdisk, .refl _, htold.grows, hcoupled.larger_file, fun _ _ h => .inl h⟩

/-- A run over two lists of applications is in lockstep with a run over each: with one over the first, with one over the
second on the disk as it was at the start, and with one on the disk that the first leaves. -/
theorem exists_runs_of_append (hregistry : g.registry.BuiltIn) (hproper : g.generationPath.IsProper)
    (hpaths : ∀ p ∈ g.templatePaths, p.IsProper) (hdisk : disk.WellFormed) {first second : List Application}
    {q : Progress} (k : Journal) (final : Disk)
    (hquiet : disk.Quiet g.templatePaths final (k.events.drop journal.events.length))
    (hrun : (g.runTurns none (turns 0 (first ++ second))).run (Progress.start disk journal 0) = (.ok (), q))
    (hend : q.journal.events <+: k.events ∧ q.disk.Grows final) :
    ∃ p q' q'', (g.runTurns none (turns 0 first)).run (Progress.start disk journal 0) = (.ok (), p) ∧
      (g.runTurns none (turns 0 second)).run (Progress.start disk journal 0) = (.ok (), q') ∧
      (g.runTurns none (turns 0 second)).run (Progress.start p.disk journal 0) = (.ok (), q'') ∧
      Progress.Alike (.beside hpaths hdisk journal.events.length k final hquiet) p first.length q q' ∧
      Progress.Alike (.same g.templatePaths) p first.length q q'' := by
  rw [turns_append, turns_renumber 0 first.length second] at hrun
  obtain ⟨p, hfirst, hsecond⟩ := runTurns_append_ok hrun
  -- the first applications are on the way to where the run ends up
  let s := Comparison.beside hpaths hdisk journal.events.length k final hquiet
  have hrest := runTurns_told_any hregistry hproper none ((turns 0 second).map (Turn.renumber first.length)) p
  rw [hsecond] at hrest
  have hbetween := s.leads_earlier hend hrest
  have hbegun := runTurns_told_any hregistry hproper none (turns 0 first) (Progress.start disk journal 0)
  rw [hfirst] at hbegun
  have hevents : journal.events.length ≤ p.journal.events.length := by
    obtain ⟨_, more, hmore, _⟩ := hbegun
    rw [hmore]
    exact (List.prefix_append _ more).length_le
  have hcoupled := coupled_of_run hregistry hproper hpaths hdisk k final hquiet hfirst hbetween
  have hfresh (d : Disk) (t : Comparison g.templatePaths) (hdisks : t.rel p.journal p.disk d) :
      Progress.Alike t p first.length p (Progress.start d journal 0) :=
    ⟨(List.append_nil _).symm, (List.append_nil _).symm, (List.append_nil _).symm, (List.append_nil _).symm, hdisks⟩
  obtain ⟨q', hrun', hbeside⟩ := runTurns_locked hregistry hproper (hfresh disk s ⟨hevents, hcoupled⟩) hsecond hend
  obtain ⟨q'', hrun'', hsame⟩ :=
    runTurns_locked hregistry hproper (hfresh p.disk (.same g.templatePaths) rfl) hsecond trivial
  exact ⟨p, q', q'', hfirst, hrun', hrun'', hbeside, hsame⟩

/-- The report that a generation failed with. -/
def failure? : Except Stop Report → Option Report
  | .error (.failed r) => some r
  | _ => none

theorem failure?_eq_some_iff {result : Except Stop Report} {r : Report} :
    failure? result = some r ↔ result = .error (.failed r) := by
  cases result with
  | ok report => simp [failure?]
  | error stop => cases stop <;> simp [failure?]

end Generator

open Generator

/-- A run over two lists of applications, in which nothing fails but snippets and all snippets are looked for where
nothing happens, reports what the runs over each of them report, one after the other. It fails if one of them does, with
the errors of both, and leaves the disk as it is after the one and then the other. The workflows get the numbers that
they get in the runs over each list: every process manager is built with numbers that start afresh, and the issues of
its turn carry its name. -/
theorem generation_concatenates (g : Generator) (target : Target) (journal : Journal) (disk : Disk)
    (first second : List Application) (hregistry : g.registry.BuiltIn) (hgeneration : g.generationPath.IsProper)
    (htemplates : ∀ p ∈ g.templatePaths, p.IsProper) (hdisk : disk.WellFormed) (htarget : target.hostsStandard = true)
    (hfaultless : ∀ f, (g.generation target journal disk (first ++ second)).1 ≠ .error (.fault f))
    (hquiet : disk.Quiet g.templatePaths (g.generation target journal disk (first ++ second)).2.disk
      ((g.generation target journal disk (first ++ second)).2.journal.events.drop journal.events.length)) :
    let both := g.generation target journal disk (first ++ second)
    let one := g.generation target journal disk first
    let other := g.generation target journal disk second
    (Reports both ∧ Reports one ∧ Reports other) ∧
    (both.2.report.workflows = one.2.report.workflows ++ other.2.report.workflows ∧
      both.2.report.written = one.2.report.written ++ other.2.report.written ∧
      both.2.report.issues = one.2.report.issues ++ other.2.report.issues) ∧
    ((∃ r, both.1 = .error (.failed r)) ↔ (∃ r, one.1 = .error (.failed r)) ∨ ∃ r, other.1 = .error (.failed r)) ∧
    (∀ r, both.1 = .error (.failed r) → r.errors = one.2.report.errors ++ other.2.report.errors) ∧
    both.2.disk = (g.generation target journal one.2.disk second).2.disk ∧
    both.2.stamps = one.2.stamps ++ other.2.stamps.map (Stamps.renumber first.length) ∧
    ∀ before application index m after, turns 0 (first ++ second) = before ++ .build application index m :: after →
      ∃ p q, (g.runTurns none before).run (Progress.start disk journal 0) = (.ok (), p) ∧
        (g.runTurn none (.build application index m)).run p = (.ok (), q) ∧ g.BuildsAfresh index m p q := by
  intro both one other
  obtain ⟨q, hrun⟩ := exists_run_of_no_fault hregistry htarget hfaultless
  have hboth : both = _ := generation_of_run htarget hrun
  have hend : q.journal.events <+: both.2.journal.events ∧ q.disk.Grows both.2.disk := by
    rw [hboth]
    exact ⟨List.prefix_append _ _, .refl _⟩
  obtain ⟨p, q', q'', hfirst, hsecond, hagain, hafter, hsame⟩ :=
    exists_runs_of_append hregistry hgeneration htemplates hdisk both.2.journal both.2.disk hquiet hrun hend
  have hone : one = _ := generation_of_run htarget hfirst
  have hother : other = _ := generation_of_run htarget hsecond
  have hthen : g.generation target journal p.disk second = _ := generation_of_run htarget hagain
  have hreports : Reports both ∧ Reports one ∧ Reports other := by
    rw [hboth, hone, hother]
    exact ⟨rfl, rfl, rfl⟩
  have herrors : both.2.report.errors = one.2.report.errors ++ other.2.report.errors := by
    rw [hboth, hone, hother]
    change Issue.errors q.issues = Issue.errors p.issues ++ Issue.errors q'.issues
    rw [hafter.issues]
    exact List.filter_append _ _
  refine ⟨hreports, ?_, ?_, ?_, ?_, ?_, ?_⟩
  · rw [hboth, hone, hother]
    exact ⟨hafter.workflows, hafter.written, hafter.issues⟩
  · rw [exists_failed_iff hreports.1, exists_failed_iff hreports.2.1, exists_failed_iff hreports.2.2, herrors, ne_eq,
      List.append_eq_nil_iff, not_and_or]
  · intro r hr
    rw [((reports_failed_iff hreports.1 r).mp hr).2, herrors]
  · rw [hboth, hone, hthen]
    exact hsame.disks
  · rw [hboth, hone, hother]
    exact hafter.stamps
  · intro before application index m after heq
    rw [heq] at hrun
    exact exists_turn_of_run hregistry hrun

/-- An application with a document whose text is kept for inspection. -/
def pairFirst : List Application :=
  [⟨"first", [smallManager "a" "flow" [(.connections, "conn.json", some "debug", "c.json")]]⟩]

/-- An application with a skeleton that is no JSON, one that is missing, and one that is fine. -/
def pairSecond : List Application :=
  [⟨"second", [smallManager "b" "flow"
    [(.connections, "bad.json", none, "bad.json"), (.parameters, "none.json", none, "none.json"),
      (.appSettings, "app.json", none, "b.json")]]⟩]

def pairDisk : Disk :=
  smallDisk [("conn.json", .text "\x7b\x7d"), ("bad.json", .text "oops"), ("app.json", .text "\x7b\x7d")]

/-- Two applications of which the second fails, with the errors that it has by itself. -/
theorem generation_concatenates_pair :
    (smallGenerator.generation .standard .empty pairDisk (pairFirst ++ pairSecond)).2.report.written =
        [⟨0, ["generated", "c.json"]⟩, ⟨0, ["generated", "b.json"]⟩] ∧
      (smallGenerator.generation .standard .empty pairDisk (pairFirst ++ pairSecond)).2.report.issues =
        (smallGenerator.generation .standard .empty pairDisk pairFirst).2.report.issues ++
          (smallGenerator.generation .standard .empty pairDisk pairSecond).2.report.issues ∧
      ∃ r, (smallGenerator.generation .standard .empty pairDisk (pairFirst ++ pairSecond)).1 = .error (.failed r) ∧
        r.errors = (smallGenerator.generation .standard .empty pairDisk pairFirst).2.report.errors ++
          (smallGenerator.generation .standard .empty pairDisk pairSecond).2.report.errors := by
  have hrun : ((smallGenerator.generation .standard .empty pairDisk (pairFirst ++ pairSecond)).2.report.written =
          [⟨0, ["generated", "c.json"]⟩, ⟨0, ["generated", "b.json"]⟩] ∧
        (failure? (smallGenerator.generation .standard .empty pairDisk (pairFirst ++ pairSecond)).1).isSome) ∧
      pairDisk.Quiet smallGenerator.templatePaths
        (smallGenerator.generation .standard .empty pairDisk (pairFirst ++ pairSecond)).2.disk
        ((smallGenerator.generation .standard .empty pairDisk (pairFirst ++ pairSecond)).2.journal.events.drop
          Journal.empty.events.length) := by
    decide +kernel
  obtain ⟨⟨hwritten, hfailed⟩, hquiet⟩ := hrun
  obtain ⟨r, hfailure⟩ := Option.isSome_iff_exists.mp hfailed
  have hr := failure?_eq_some_iff.mp hfailure
  have hfaultless (f : Fault) : (smallGenerator.generation .standard .empty pairDisk (pairFirst ++ pairSecond)).1 ≠
      .error (.fault f) := by
    rw [hr]
    simp
  obtain ⟨_, ⟨_, _, hissues⟩, _, herrors, _⟩ := generation_concatenates smallGenerator .standard .empty pairDisk
    pairFirst pairSecond Registry.standard_builtIn (Path.isProper_ofText _)
    (by simp [smallGenerator, Path.isProper_ofText]) (.of_entries rfl (by decide)) rfl hfaultless hquiet
  exact ⟨hwritten, hissues, r, hr, herrors r hr⟩

/-- A generator that looks for templates on a way that goes through a directory below the generation path. -/
def detourGenerator : Generator :=
  { smallGenerator with templatePaths := [.ofText "templates", .ofText "generated/a/../../more"] }

def detourDisk : Disk where
  entries := [(["templates"], .directory), (["templates", "conn.json"], .file (.text "\x7b\x7d")),
    (["more"], .directory), (["more", "app.json"], .file (.text "\x7b\x7d"))]
  workingDirectory := []
  home := []

/-- One application writes to a directory on that way, the other has a template at its end. -/
def detourApplications : List Application :=
  [⟨"first", [smallManager "a" "flow" [(.connections, "conn.json", none, "a/conn.json")]]⟩,
    ⟨"second", [smallManager "b" "flow" [(.appSettings, "app.json", none, "b.json")]]⟩]

def detourGeneration (applications : List Application) : Except Stop Report × Progress :=
  detourGenerator.generation .standard .empty detourDisk applications

/-- A directory that is made for one application lets the other find its template: without it the second is not
written, though no file is written where one is looked for. -/
theorem new_directory_opens_search :
    ((detourGeneration detourApplications).2.report.written =
        [⟨0, ["generated", "a", "conn.json"]⟩, ⟨0, ["generated", "b.json"]⟩] ∧
      ∀ e ∈ (detourGeneration detourApplications).2.journal.events, ∀ q ∈ e.lookups detourGenerator.templatePaths,
        ∀ p ∈ writtenFiles (detourGeneration detourApplications).2.journal.events,
          detourDisk.place p ≠ detourDisk.place q) ∧
    (detourGeneration (detourApplications.take 1)).2.report.written = [⟨0, ["generated", "a", "conn.json"]⟩] ∧
    (detourGeneration (detourApplications.drop 1)).2.report.written = [] := by
  refine ⟨?_, ?_, ?_⟩
  all_goals decide +kernel

end WorkflowForge
