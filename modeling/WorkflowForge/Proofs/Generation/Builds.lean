import WorkflowForge.Proofs.Assembly.Course
import WorkflowForge.Proofs.Generation.History

/-!
The process managers that a run builds, each on the bench that it has when the turn comes, and the renderings of each
building. A run that is stopped builds those before the stop, and the one that stops it if it is not cancelled. What is
recorded while a process manager is built is recorded for good.
-/

namespace WorkflowForge

open Stage (renderings)

/-- The process manager of a model under the numbers of its application and its own. -/
def MigrationModel.managerAt? (model : MigrationModel) (index : Nat × Nat) : Option ProcessManager :=
  model.applications[index.1]?.bind (·.processManagers[index.2]?)

namespace Generator

theorem getElem?_of_mem_managerTurns {application other : String} {number first : Nat} {index : Nat × Nat}
    {m : ProcessManager} {managers : List ProcessManager}
    (h : Turn.build other index m ∈ managerTurns application number first managers) :
    index.1 = number ∧ ∃ i, index.2 = first + i ∧ managers[i]? = some m := by
  induction managers generalizing first with
  | nil => cases h
  | cons m' rest ih =>
      rw [managerTurns] at h
      rcases List.mem_cons.mp h with heq | hrest
      · cases heq
        exact ⟨rfl, 0, rfl, rfl⟩
      · obtain ⟨hnumber, i, hindex, hi⟩ := ih hrest
        exact ⟨hnumber, i + 1, by omega, hi⟩

theorem getElem?_of_mem_turns {application : String} {number : Nat} {index : Nat × Nat} {m : ProcessManager}
    {applications : List Application} (h : Turn.build application index m ∈ turns number applications) :
    ∃ i a, index.1 = number + i ∧ applications[i]? = some a ∧ a.processManagers[index.2]? = some m := by
  induction applications generalizing number with
  | nil => cases h
  | cons a rest ih =>
      rw [turns] at h
      rcases List.mem_append.mp h with hhere | hrest
      · split at hhere
        · cases List.mem_singleton.mp hhere
        · obtain ⟨hnumber, i, hindex, hi⟩ := getElem?_of_mem_managerTurns hhere
          rw [Nat.zero_add] at hindex
          exact ⟨0, a, hnumber, rfl, hindex ▸ hi⟩
      · obtain ⟨i, b, hnumber, hb, hm⟩ := ih hrest
        exact ⟨i + 1, b, by omega, hb, hm⟩

/-- The numbers of a turn say where its process manager stands in the model. -/
theorem managerAt?_of_mem_turns {model : MigrationModel} {application : String} {index : Nat × Nat}
    {m : ProcessManager} (h : Turn.build application index m ∈ turns 0 model.applications) :
    model.managerAt? index = some m := by
  obtain ⟨i, a, hnumber, ha, hm⟩ := getElem?_of_mem_turns h
  rw [Nat.zero_add] at hnumber
  rw [MigrationModel.managerAt?, hnumber, ha]
  exact hm

/-- A run of turns builds a process manager on a bench. -/
inductive Builds (g : Generator) (cancel : Option (Nat → Bool)) :
    List Turn → Progress → Nat × Nat → ProcessManager → Bench → Prop
  | here {application : String} {index : Nat × Nat} {m : ProcessManager} {rest : List Turn} {p : Progress}
      (hgoes : ((checkCancelled cancel m).run p).1 = .ok ()) :
      Builds g cancel (.build application index m :: rest) p index m (p.bench application m)
  | later {t : Turn} {rest : List Turn} {p q : Progress} {index : Nat × Nat} {m : ProcessManager} {b : Bench}
      (hturn : (g.runTurn cancel t).run p = (.ok (), q)) (h : Builds g cancel rest q index m b) :
      Builds g cancel (t :: rest) p index m b

namespace Builds

variable {g : Generator} {cancel : Option (Nat → Bool)} {ts : List Turn} {p : Progress} {index : Nat × Nat}
  {m : ProcessManager} {b : Bench}

theorem exists_mem (h : g.Builds cancel ts p index m b) : ∃ application, Turn.build application index m ∈ ts := by
  induction h with
  | here _ => exact ⟨_, List.mem_cons_self⟩
  | later _ _ ih =>
      obtain ⟨application, hmem⟩ := ih
      exact ⟨application, List.mem_cons_of_mem _ hmem⟩

/-- Every process manager is built from a bench without numbers. -/
theorem fresh (h : g.Builds cancel ts p index m b) : b.ids = 0 ∧ b.stamps = [] := by
  induction h with
  | here _ => exact ⟨rfl, rfl⟩
  | later _ _ ih => exact ih

end Builds

variable {g : Generator} {cancel : Option (Nat → Bool)}

/-- A rendering in the building of a process manager from a bench. -/
def RendersIn (g : Generator) (m : ProcessManager) (b : Bench) (r : Rendering) : Prop :=
  ∃ stages result, Build.Course (g.ownWorkshop m) (g.terms (g.ownWorkshop m)) (g.buildManager m) b stages result ∧
    r ∈ renderings stages

variable (hregistry : g.registry.BuiltIn)

include hregistry

theorem runTurn_issues (cancel : Option (Nat → Bool)) (t : Turn) (p : Progress) :
    p.issues <+: ((g.runTurn cancel t).run p).2.issues := by
  cases t with
  | idle application => exact List.prefix_refl _
  | build application index m =>
      rw [runTurn, Run.run_bind]
      obtain ⟨checks, hcheck | hcheck⟩ := checkCancelled_run cancel m p
      · have hadded := buildManager_added hregistry m (({ p with checks := checks } : Progress).bench application m)
        rw [hcheck]
        dsimp only
        rw [runManager_run]
        exact hadded.isPrefix
      · rw [hcheck]

theorem runTurns_issues (cancel : Option (Nat → Bool)) (ts : List Turn) (p : Progress) :
    p.issues <+: ((g.runTurns cancel ts).run p).2.issues :=
  g.runTurns_preserves cancel ts (R := fun p q => p.issues <+: q.issues) (fun _ => List.prefix_refl _)
    (fun h h' => h.trans h') (fun t _ p => runTurn_issues hregistry cancel t p) p

/-- The issues of a building are issues of the run. -/
theorem Builds.issues {ts : List Turn} {p : Progress} {index : Nat × Nat} {m : ProcessManager} {b : Bench}
    (h : g.Builds cancel ts p index m b) :
    ((g.buildManager m).run b).2.issues <+: ((g.runTurns cancel ts).run p).2.issues := by
  induction h with
  | @here application index m rest p hgoes =>
      rw [runTurns_cons_run]
      have hturn : ((g.runTurn cancel (.build application index m)).run p).2.issues =
          ((g.buildManager m).run (p.bench application m)).2.issues := by
        rw [runTurn, Run.run_bind]
        obtain ⟨checks, hcheck | hcheck⟩ := checkCancelled_run cancel m p
        · rw [hcheck]
          dsimp only
          rw [runManager_run]
          rfl
        · rw [hcheck] at hgoes
          cases hgoes
      rw [← hturn]
      cases (g.runTurn cancel (.build application index m)).run p with
      | mk result q =>
          cases result with
          | ok => exact runTurns_issues hregistry cancel rest q
          | error s => exact List.prefix_refl _
  | later hturn _ ih =>
      rw [runTurns_cons_run, hturn]
      exact ih

end Generator

end WorkflowForge
