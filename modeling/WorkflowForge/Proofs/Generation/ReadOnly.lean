import WorkflowForge.Proofs.Assembly.Restamping
import WorkflowForge.Proofs.Generation.Builds
import WorkflowForge.Proofs.Generation.Numbering

/-!
What a run does to its model. However the run ends, the model is afterwards as it was, but for the stamps on elements of
its workflows, and an element that was not rendered is left as it was altogether. Every template of the run is given the
model in that state: the snippets, the resource templates and the workflow of the process manager, with the stamps that
were given so far.
-/

namespace WorkflowForge

theorem MigrationModel.managerAt?_stamped (model : MigrationModel) (stamps : List ((Nat × Nat) × Stamps))
    (index : Nat × Nat) :
    (model.stamped stamps).managerAt? index =
      (model.managerAt? index).map ((stamps.lookup index).getD []).onManager := by
  simp only [managerAt?, stamped, List.getElem?_map, List.getElem?_zipIdx, Nat.zero_add]
  cases model.applications[index.1]? with
  | none => rfl
  | some a =>
      simp only [Option.map_some, Option.bind_some, List.getElem?_map, List.getElem?_zipIdx, Nat.zero_add]
      cases a.processManagers[index.2]? <;> rfl

namespace Generator

variable {g : Generator} {cancel : Option (Nat → Bool)}

/-- What a turn adds to the stamps are those of the process manager that it builds. -/
theorem runTurn_stamps {t : Turn} {p : Progress} {entry : (Nat × Nat) × Stamps}
    (h : entry ∈ ((g.runTurn cancel t).run p).2.stamps) (rest : List Turn) :
    entry ∈ p.stamps ∨ ∃ m b, g.Builds cancel (t :: rest) p entry.1 m b ∧
      entry.2 = ((g.buildManager m).run b).2.stamps := by
  cases t with
  | idle application => exact .inl h
  | build application index m =>
      rw [runTurn, Run.run_bind] at h
      obtain ⟨checks, hcheck | hcheck⟩ := checkCancelled_run cancel m p
      · have hgoes : ((checkCancelled cancel m).run p).1 = .ok () := by rw [hcheck]
        rw [hcheck] at h
        dsimp only at h
        rw [runManager_run] at h
        rcases List.mem_append.mp h with hold | hnew
        · exact .inl hold
        · rw [List.mem_singleton.mp hnew]
          exact .inr ⟨m, _, .here hgoes, rfl⟩
      · rw [hcheck] at h
        exact .inl h

/-- The stamps of a run are those of the process managers that it builds. -/
theorem runTurns_stamps {ts : List Turn} {p : Progress} {entry : (Nat × Nat) × Stamps}
    (h : entry ∈ ((g.runTurns cancel ts).run p).2.stamps) :
    entry ∈ p.stamps ∨ ∃ m b, g.Builds cancel ts p entry.1 m b ∧
      entry.2 = ((g.buildManager m).run b).2.stamps := by
  induction ts generalizing p with
  | nil => exact .inl h
  | cons t rest ih =>
      have hhere (hmem : entry ∈ ((g.runTurn cancel t).run p).2.stamps) := runTurn_stamps hmem rest
      rw [runTurns_cons_run] at h
      cases hturn : (g.runTurn cancel t).run p with
      | mk result q =>
          rw [hturn] at h hhere
          cases result with
          | error s => exact hhere h
          | ok =>
              rcases ih h with hbefore | ⟨m, b, hbuilds, hstamps⟩
              · exact hhere hbefore
              · exact .inr ⟨m, b, .later hturn hbuilds, hstamps⟩

theorem generate_stamps {model : MigrationModel} {p : Progress} {entry : (Nat × Nat) × Stamps}
    (h : entry ∈ ((g.generate cancel model).run p).2.stamps) :
    entry ∈ p.stamps ∨ ∃ m b, g.Builds cancel (turns 0 model.applications) p entry.1 m b ∧
      entry.2 = ((g.buildManager m).run b).2.stamps := by
  rw [generate_run] at h
  split at h
  · cases hrun : (g.runTurns cancel (turns 0 model.applications)).run p with
    | mk result q =>
        have hturns (hmem : entry ∈ ((g.runTurns cancel (turns 0 model.applications)).run p).2.stamps) :=
          runTurns_stamps hmem
        rw [hrun] at h hturns
        cases result with
        | ok => exact hturns h
        | error s => exact hturns h
  · exact .inl h

/-- A place for which nothing is rendered gets no stamp. -/
theorem lookup_stamps_of_not_rendered (hregistry : g.registry.BuiltIn) {m : ProcessManager} {b : Bench}
    (hfresh : b.stamps = []) {place : Place} (hnot : ∀ r, g.RendersIn m b r → ¬ r.Of place) :
    ((g.buildManager m).run b).2.stamps.lookup place = none := by
  obtain ⟨stages, hcourse⟩ := (buildManager_composed hregistry m).exists_course b
  have hnumbers := hcourse.numbers (fun _ _ c hstep => hstep.ids_stamps c) (List.prefix_refl stages)
  rw [hcourse.reached_eq] at hnumbers
  rw [hnumbers.stamps, hfresh, List.append_nil]
  exact Rendering.lookup_stamps_of_not_of b.ids fun r hr => hnot r ⟨stages, _, hcourse, hr⟩

end Generator

/-- A workflow that has a stamp, and an activity in it that has none. -/
def numberedModel : MigrationModel :=
  let m := keptManager
  smallModel [{ m with workflow := m.workflow.map fun flow => { flow with
    element := { flow.element with properties := [(Element.stampName, .int 7), ("Color", .text "red")] }
    activities := [.leaf { (default : Element) with name := "step", properties := [("Size", .int 1)] }] } }]

end WorkflowForge
