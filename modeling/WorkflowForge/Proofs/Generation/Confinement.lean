import WorkflowForge.Proofs.Files.Containment
import WorkflowForge.Proofs.Generation.Trace
import WorkflowForge.Proofs.Generation.Turns

/-!
Where a run writes. If no text of the model leads out of the directory it is put under, every file that a run writes is
strictly below the generation path, however the run ends: it is at or below it by its path, and it is not the directory
itself, since no file is put where a directory is. A text that leads out is followed all the same, and a file is
written outside.
-/

namespace WorkflowForge

open Event (writtenFiles)

namespace ProcessManager

/-- The texts that say where the documents of a process manager are written. -/
def outputs (m : ProcessManager) : List String :=
  ArtifactKind.all.filterMap (Generator.outputOf?
    { (default : Workshop) with manager := m, resource := m.findResource Snippet.standardFamily })

/-- The elements of a process manager's workflow. -/
def elements (m : ProcessManager) : List Element := (m.workflow.map (·.elements)).getD []

/-- Whether no text of a process manager leads out of the directory that it is put under. -/
def isContained (m : ProcessManager) : Bool :=
  m.outputs.all isContainedOutput &&
    m.snippets.all fun s =>
      s.outputPath.getD "" == "" || m.elements.all fun e => isContainedInspection (s.outputPath.getD "") e.name

end ProcessManager

def MigrationModel.isContained (model : MigrationModel) : Bool := model.managers.all (·.isContained)

/-- A location in a directory or in one below it. -/
def StrictlyBelow (directory location : Location) : Prop := directory <+: location ∧ directory ≠ location

instance (directory location : Location) : Decidable (StrictlyBelow directory location) :=
  inferInstanceAs (Decidable (_ ∧ _))

namespace Generator

variable {g : Generator}

theorem mem_outputs {m : ProcessManager} {resource : ResourceTemplate} {kind : ArtifactKind} {output : String}
    (hresource : m.findResource Snippet.standardFamily = some resource)
    (houtput : outputOf? (g.workshop m (some resource)) kind = some output) : output ∈ m.outputs := by
  refine List.mem_filterMap.mpr ⟨kind, ?_, ?_⟩
  · cases kind <;> decide
  · rw [hresource]
    exact houtput

/-- The targets of a process manager whose texts are contained are at or below the generation path. -/
theorem Targets.prefix_place {m : ProcessManager} {p : Path} (h : g.Targets m p) (hm : m.isContained = true)
    (d : Disk) : d.place g.generationPath <+: d.place p := by
  obtain ⟨houtputs, hsnippets⟩ := (Bool.and_eq_true _ _).mp hm
  cases h with
  | document hresource houtput =>
      have houtput := List.all_eq_true.mp houtputs _ (mem_outputs hresource houtput)
      exact prefix_place_destination houtput g d
  | @inspection snippet flow item e source id templated hsnippet houtput hflow he hitem hname =>
      have hall := List.all_eq_true.mp hsnippets snippet hsnippet
      rw [Bool.or_eq_true, beq_iff_eq] at hall
      have helements := hall.resolve_left houtput
      have hmem : e ∈ m.elements := by
        rw [ProcessManager.elements, hflow]
        exact he
      have hcontained := List.all_eq_true.mp helements e hmem
      have hitemname : item.name = e.name := by
        rw [Item.name, hitem]
        rfl
      rw [← hitemname] at hcontained
      exact prefix_place_inspectionPath (w := g.workshop m none) hname hcontained id templated d

/-- What a run tells: it writes to the targets of the model's process managers alone, and only once the generation path
is a directory. -/
theorem run_told (hregistry : g.registry.BuiltIn) (hproper : g.generationPath.IsProper)
    (hpaths : ∀ p ∈ g.templatePaths, p.IsProper) (cancel : Option (Nat → Bool)) (model : MigrationModel)
    (p : Progress) (hp : p.disk.Settled) :
    Told (fun path => (∃ m ∈ model.managers, g.Targets m path) ∧
        ((g.generate cancel model).run p).2.disk.isDirectory g.generationPath = true)
      p.journal p.disk ((g.generate cancel model).run p).2.journal ((g.generate cancel model).run p).2.disk := by
  have hturns := g.runTurns_preserves cancel (turns 0 model.applications)
    (R := fun p q => p.disk.Settled → Told (fun path => (∃ m ∈ model.managers, g.Targets m path) ∧
      q.disk.isDirectory g.generationPath = true) p.journal p.disk q.journal q.disk) ?_ ?_ ?_ p hp
  · rw [generate_run]
    split
    · cases hrun : (g.runTurns cancel (turns 0 model.applications)).run p with
      | mk result q =>
          rw [hrun] at hturns
          cases result with
          | ok => exact hturns.trans (.emit _ _ _ _ _ (by decide))
          | error s => exact hturns
    · exact .emit _ _ _ _ _ (by decide)
  · intro p _
    exact .refl _ _
  · intro p q r hpq hqr hp
    have hfirst := hpq hp
    have hsecond := hqr (hfirst.grows.settled hp)
    exact (hfirst.mono fun path hpath => ⟨hpath.1, hsecond.grows.isDirectory hpath.2⟩).trans hsecond
  · intro t ht p hp
    cases t with
    | idle application => exact .emit _ _ _ _ _ (by decide)
    | build application index m =>
        have hmanager := mem_of_mem_turns ht
        rw [runTurn, Run.run_bind]
        obtain ⟨checks, hcheck | hcheck⟩ := checkCancelled_run cancel m p
        · have htold := buildManager_told hregistry hproper hpaths m
            (({ p with checks := checks } : Progress).bench application m) hp
          rw [hcheck]
          dsimp only
          rw [runManager_run]
          cases hrun : (g.buildManager m).run (({ p with checks := checks } : Progress).bench application m) with
          | mk result c =>
              rw [hrun] at htold
              refine Told.of_events ?_ ?_ (htold.mono fun path hpath => ⟨⟨m, hmanager, hpath.1⟩, hpath.2⟩)
              · rfl
              · rfl
        · rw [hcheck]
          exact .emit _ _ _ _ _ (by decide)

/-- The paths that a run reports as written are told of. -/
theorem run_tells (hregistry : g.registry.BuiltIn) (hproper : g.generationPath.IsProper)
    (cancel : Option (Nat → Bool)) (model : MigrationModel) (p : Progress) :
    ∃ new, ((g.generate cancel model).run p).2.written = p.written ++ new ∧
      p.journal.Tells ((g.generate cancel model).run p).2.journal new := by
  have hturns := g.runTurns_preserves cancel (turns 0 model.applications)
    (R := fun p q => ∃ new, q.written = p.written ++ new ∧ p.journal.Tells q.journal new) ?_ ?_ ?_ p
  · obtain ⟨new, hnew, htells⟩ := hturns
    rw [generate_run]
    split
    · cases hrun : (g.runTurns cancel (turns 0 model.applications)).run p with
      | mk result q =>
          rw [hrun] at hnew htells
          cases result with
          | ok =>
              have hcompleted : Told (fun _ => True) q.journal q.disk (logCompletion q.report q.journal) q.disk :=
                .emit _ _ _ _ _ (by decide)
              refine ⟨new, hnew, ?_⟩
              have hboth := htells.trans hcompleted.tells
              rwa [List.append_nil] at hboth
          | error s => exact ⟨new, hnew, htells⟩
    · have hskipped : Told (fun _ => True) p.journal p.disk (p.journal.emit .info logger "target_not_supported"
          [("target", .string model.target.name)]) p.disk := .emit _ _ _ _ _ (by decide)
      exact ⟨[], by simp, hskipped.tells⟩
  · intro p
    exact ⟨[], by simp, .refl _⟩
  · intro p q r hpq hqr
    obtain ⟨new, hnew, htells⟩ := hpq
    obtain ⟨more, hmore, htells'⟩ := hqr
    exact ⟨new ++ more, by rw [hmore, hnew, List.append_assoc], htells.trans htells'⟩
  · intro t ht p
    cases t with
    | idle application =>
        have hidle : Told (fun _ => True) p.journal p.disk (p.passedOver application).journal p.disk :=
          .emit _ _ _ _ _ (by decide)
        exact ⟨[], (List.append_nil p.written).symm, hidle.tells⟩
    | build application index m =>
        rw [runTurn, Run.run_bind]
        obtain ⟨checks, hcheck | hcheck⟩ := checkCancelled_run cancel m p
        · have htold := buildManager_told_any hregistry hproper m
            (({ p with checks := checks } : Progress).bench application m)
          rw [hcheck]
          dsimp only
          rw [runManager_run]
          cases hrun : (g.buildManager m).run (({ p with checks := checks } : Progress).bench application m) with
          | mk result c =>
              rw [hrun] at htold
              refine ⟨result.toOption.getD [], rfl, ?_⟩
              cases result with
              | ok written =>
                  refine Journal.Tells.of_events ?_ ?_ (buildManager_tells hregistry hproper hrun)
                  · rfl
                  · rfl
              | error f =>
                  refine Journal.Tells.of_events ?_ ?_ htold.tells
                  · rfl
                  · rfl
        · have hcancelled : Told (fun _ => True) p.journal p.disk (p.journal.emit .warning logger
              "generation_cancelled" [("workflow", .string m.name)]) p.disk := .emit _ _ _ _ _ (by decide)
          rw [hcheck]
          exact ⟨[], by simp, hcancelled.tells⟩

end Generator

/-- Where no text of the model leads out of the directory it is put under, a run writes below the generation path alone,
however it ends: this is so of every file that the journal tells to have been written, these are all files that are
reported as written, and no other file is new or holds something else than before. -/
theorem generation_confined (g : Generator) (cancel : Option (Nat → Bool)) (model : MigrationModel) (disk : Disk)
    (journal : Journal) (checks : Nat) (hregistry : g.registry.BuiltIn) (hgeneration : g.generationPath.IsProper)
    (htemplates : ∀ p ∈ g.templatePaths, p.IsProper) (hdisk : disk.Settled) (hmodel : model.isContained = true) :
    let after := ((g.generate cancel model).run (Progress.start disk journal checks)).2
    ∃ events, after.journal.events = journal.events ++ events ∧
      (∀ p ∈ writtenFiles events, StrictlyBelow (disk.place g.generationPath) (disk.place p)) ∧
      (∀ p ∈ after.written, p ∈ writtenFiles events) ∧
      ∀ l content, after.disk.entryAt? l = some (.file content) →
        disk.entryAt? l = some (.file content) ∨ ∃ p ∈ writtenFiles events, disk.place p = l := by
  intro after
  obtain ⟨hgrows, events, hevents, hthere, hchanged⟩ :=
    Generator.run_told hregistry hgeneration htemplates cancel model (Progress.start disk journal checks) hdisk
  obtain ⟨new, hnew, more, hmore, htold⟩ :=
    Generator.run_tells hregistry hgeneration cancel model (Progress.start disk journal checks)
  have hsame : more = events := List.append_cancel_left (hmore.symm.trans hevents)
  refine ⟨events, hevents, ?_, ?_, hchanged⟩
  · intro p hp
    obtain ⟨⟨⟨m, hm, htarget⟩, hdirectory⟩, content, hfile⟩ := hthere p hp
    refine ⟨htarget.prefix_place (List.all_eq_true.mp hmodel m hm) disk, ?_⟩
    -- The generation path is a directory, and the path written is a file.
    intro hequal
    have hvisited := (Disk.isDirectory_iff _ _).mp hdirectory
    have hplace := hvisited (disk.place g.generationPath) (by
      rw [hgrows.visited_eq]
      exact List.mem_append_right _ (List.mem_singleton_self _))
    rw [hequal] at hplace
    have hclash := hplace.symm.trans hfile
    cases hclash
  · intro p hp
    rw [← hsame]
    apply htold
    rw [hnew] at hp
    exact hp

/-- A document and the text of its skeleton, with a name that only looks as if it led out. -/
def confinedModel : MigrationModel :=
  smallModel [smallManager "pm" "a/.. /b" [(.connections, "conn.json", some "debug", "x/../c.json")]]

def connectionsDisk : Disk := smallDisk [("conn.json", .text "\x7b\x7d")]

theorem generation_confined_connections :
    confinedModel.isContained = true ∧
      ((smallGenerator.generate none confinedModel).run (Progress.start connectionsDisk .empty 0)).2.written =
        [⟨0, ["generated", "x", "..", "c.json"]⟩] ∧
      let after := ((smallGenerator.generate none confinedModel).run (Progress.start connectionsDisk .empty 0)).2
      ∃ events, after.journal.events = Journal.empty.events ++ events ∧
        (∀ p ∈ writtenFiles events,
          StrictlyBelow (connectionsDisk.place smallGenerator.generationPath) (connectionsDisk.place p)) ∧
        (∀ p ∈ after.written, p ∈ writtenFiles events) ∧
        ∀ l content, after.disk.entryAt? l = some (.file content) →
          connectionsDisk.entryAt? l = some (.file content) ∨
            ∃ p ∈ writtenFiles events, connectionsDisk.place p = l := by
  have hcontained : confinedModel.isContained = true := by decide +kernel
  have htemplates : ∀ p ∈ smallGenerator.templatePaths, p.IsProper := by
    intro p hp
    rw [List.mem_singleton.mp hp]
    exact Path.isProper_ofText _
  exact ⟨hcontained, by decide +kernel, generation_confined smallGenerator none confinedModel connectionsDisk .empty 0
    Registry.standard_builtIn (Path.isProper_ofText _) htemplates rfl hcontained⟩

/-- A run with a document, the output path of its rendered text and the name of its element. -/
def connectionsRun (element : String) (outputPath : Option String) (output : String) : Except Stop Report × Progress :=
  smallRun (smallModel [smallManager "pm" element [(.connections, "conn.json", outputPath, output)]])
    [("conn.json", .text "\x7b\x7d")]

/-- Each of the three texts can lead out: the one that says where a document is written, the output path of a snippet,
and the name of an element, even one in which two dots are kept apart by a space. -/
theorem texts_lead_outside :
    ((connectionsRun "flow" none "../outside.json").2.written = [⟨0, ["generated", "..", "outside.json"]⟩] ∧
      (connectionsRun "flow" none "../outside.json").2.disk.entryAt? ["outside.json"] =
        some (.file (.text "\x7b\x7d"))) ∧
    (connectionsRun "flow" (some "..") "c.json").2.disk.entryAt? ["1.flow.conn.json"] =
      some (.file (.text "\x7b\x7d")) ∧
    (connectionsRun "a/. ./../../x" (some "debug") "c.json").2.disk.entryAt? ["x.conn.json"] =
      some (.file (.text "\x7b\x7d")) ∧
    ∀ location ∈ [["outside.json"], ["1.flow.conn.json"], ["x.conn.json"]], connectionsDisk.entryAt? location = none ∧
      ¬ StrictlyBelow (connectionsDisk.place smallGenerator.generationPath) location := by
  refine ⟨?_, ?_, ?_, ?_⟩
  all_goals decide +kernel

end WorkflowForge
