import WorkflowForge.Proofs.Generation.History

/-!
Cancellation between process managers. A run asks before each process manager whether to stop. As long as the answer is
no it does what a run does that is never asked, and when it is yes for the first time it has done what a run over the
process managers before that one does, and does nothing more than tell of it. The answers matter only where they are
given: a run that breaks off before breaks off in the same way.
-/

namespace WorkflowForge

/-- The run with another count of how often it was asked whether to stop. -/
def Progress.asked (p : Progress) (checks : Nat) : Progress := { p with checks := checks }

namespace Application

/-- The applications up to so many process managers; those behind the last that are empty are kept, as a run passes over
them before it comes to the next process manager. -/
def upTo : Nat → List Application → List Application
  | _, [] => []
  | count, a :: rest =>
    if a.processManagers.length ≤ count then a :: upTo (count - a.processManagers.length) rest
    else if count = 0 then []
    else [{ a with processManagers := a.processManagers.take count }]

theorem managers_upTo (count : Nat) (applications : List Application) :
    (upTo count applications).flatMap (·.processManagers) = (applications.flatMap (·.processManagers)).take count := by
  induction applications generalizing count with
  | nil => rw [upTo, List.flatMap_nil, List.take_nil]
  | cons a rest ih =>
      rw [upTo, List.flatMap_cons, List.take_append]
      split
      · next hcount => rw [List.flatMap_cons, ih, List.take_of_length_le hcount]
      · next hcount =>
          have hnone : count - a.processManagers.length = 0 := by omega
          rw [hnone, List.take_zero, List.append_nil]
          split
          · next hzero => rw [hzero, List.take_zero, List.flatMap_nil]
          · rw [List.flatMap_singleton]

end Application

/-- The model cut down to its first process managers. -/
def MigrationModel.cutTo (model : MigrationModel) (count : Nat) : MigrationModel :=
  { model with applications := Application.upTo count model.applications }

namespace Generator

theorem managerTurns_append (application : String) (number index : Nat) (first second : List ProcessManager) :
    managerTurns application number index (first ++ second) =
      managerTurns application number index first ++ managerTurns application number (index + first.length) second := by
  induction first generalizing index with
  | nil => rfl
  | cons m rest ih =>
      rw [List.cons_append, managerTurns, managerTurns, ih, List.cons_append, List.length_cons, Nat.add_right_comm,
        Nat.add_assoc]

/-- The turn of a process manager comes behind all turns of the model cut down to those before it. -/
theorem turns_upTo (number : Nat) {count : Nat} {applications : List Application} {m : ProcessManager}
    (hm : (applications.flatMap (·.processManagers))[count]? = some m) :
    ∃ application index after, turns number applications =
      turns number (Application.upTo count applications) ++ .build application index m :: after := by
  induction applications generalizing number count with
  | nil => cases hm
  | cons a rest ih =>
      rw [List.flatMap_cons] at hm
      by_cases hcount : a.processManagers.length ≤ count
      · rw [List.getElem?_append_right hcount] at hm
        obtain ⟨application, index, after, hrest⟩ := ih (number + 1) hm
        refine ⟨application, index, after, ?_⟩
        rw [Application.upTo, if_pos hcount, turns, turns, hrest, List.append_assoc]
      · have hlt : count < a.processManagers.length := Nat.lt_of_not_le hcount
        rw [List.getElem?_append_left hlt] at hm
        obtain ⟨_, rfl⟩ := List.getElem?_eq_some_iff.mp hm
        have hmanagers : a.processManagers ≠ [] := List.ne_nil_of_length_pos (Nat.zero_lt_of_lt hlt)
        have hsplit : a.processManagers.take count ++ a.processManagers[count] :: a.processManagers.drop (count + 1) =
            a.processManagers := by
          rw [← List.drop_eq_getElem_cons hlt, List.take_append_drop]
        have hcut : turns number (Application.upTo count (a :: rest)) =
            managerTurns a.name number 0 (a.processManagers.take count) := by
          rw [Application.upTo, if_neg hcount]
          split
          · next hzero => rw [hzero, List.take_zero, turns, managerTurns]
          · next hzero =>
              have htake : a.processManagers.take count ≠ [] := by simp [hzero, hmanagers]
              rw [turns, if_neg (by simpa using htake), turns, List.append_nil]
        have hall : managerTurns a.name number 0 a.processManagers =
            managerTurns a.name number 0 (a.processManagers.take count) ++
              managerTurns a.name number (0 + (a.processManagers.take count).length)
                (a.processManagers[count] :: a.processManagers.drop (count + 1)) := by
          rw [← managerTurns_append, hsplit]
        rw [turns, if_neg (by simpa using hmanagers), hall, managerTurns, List.append_assoc, List.cons_append, hcut]
        exact ⟨a.name, _, _, rfl⟩

theorem turns_cutTo {model : MigrationModel} {count : Nat} {m : ProcessManager}
    (hm : model.managers[count]? = some m) :
    ∃ application index after, turns 0 model.applications =
      turns 0 (model.cutTo count).applications ++ .build application index m :: after :=
  turns_upTo 0 hm

section

variable {g : Generator} {application : String} {index : Nat × Nat} {m : ProcessManager} {p : Progress}

/-- A run that is not asked whether to stop is stopped by faults alone. -/
theorem fault_of_runTurns_none {ts : List Turn} {q : Progress} {s : Stop}
    (hrun : (g.runTurns none ts).run p = (.error s, q)) : ∃ f, s = .fault f := by
  induction ts generalizing p with
  | nil => cases hrun
  | cons t rest ih =>
      rw [runTurns_cons_run] at hrun
      cases t with
      | idle application => exact ih hrun
      | build application index m =>
          rw [runTurn_build_run, runManager_run] at hrun
          cases hbuild : (g.buildManager m).run (p.bench application m) with
          | mk result c =>
              rw [hbuild] at hrun
              cases result with
              | ok written => exact ih hrun
              | error f =>
                  cases hrun
                  exact ⟨f, rfl⟩

/-- Process managers are built in the same way however often it was asked whether to stop. -/
theorem runManager_asked (checks : Nat) :
    (g.runManager application index m).run (p.asked checks) =
      (((g.runManager application index m).run p).1, ((g.runManager application index m).run p).2.asked checks) := by
  rw [runManager_run, runManager_run]
  rfl

/-- A run that is told to go on does what a run does that is not asked, whether it comes to its end or breaks off. -/
theorem runTurns_asked {answers : Nat → Bool} {ts : List Turn} {checks : Nat}
    (h : ∀ i < (ts.flatMap Turn.managers).length, answers (checks + i) = false) :
    ∃ later, (g.runTurns (some answers) ts).run (p.asked checks) =
        (((g.runTurns none ts).run p).1, ((g.runTurns none ts).run p).2.asked later) ∧
      (((g.runTurns none ts).run p).1 = .ok () → later = checks + (ts.flatMap Turn.managers).length) := by
  induction ts generalizing p checks with
  | nil => exact ⟨checks, rfl, fun _ => rfl⟩
  | cons t rest ih =>
      cases t with
      | idle application => exact ih (p := p.passedOver application) h
      | build application index m =>
          rw [List.flatMap_cons, Turn.managers, List.singleton_append, List.length_cons] at h ⊢
          have hno : answers checks = false := h 0 (Nat.zero_lt_succ _)
          have hrest : ∀ i < (rest.flatMap Turn.managers).length, answers (checks + 1 + i) = false := by
            intro i hi
            rw [Nat.add_assoc, Nat.add_comm 1]
            exact h (i + 1) (Nat.succ_lt_succ hi)
          have hturn : (g.runTurn (some answers) (.build application index m)).run (p.asked checks) =
              (g.runManager application index m).run (p.asked (checks + 1)) := by
            rw [runTurn, Run.run_bind, checkCancelled_some_run]
            simp only [Progress.asked, hno]
            rfl
          rw [runTurns_cons_run, runTurns_cons_run, hturn, runTurn_build_run, runManager_asked]
          cases (g.runManager application index m).run p with
          | mk result q =>
              cases result with
              | error s =>
                  refine ⟨checks + 1, rfl, fun hok => ?_⟩
                  cases hok
              | ok =>
                  obtain ⟨later, hrun, hlater⟩ := ih (p := q) hrest
                  exact ⟨later, hrun, fun hok => by rw [hlater hok]; omega⟩

/-- A run that is told to stop when a process manager has its turn has done the turns before. -/
theorem runTurns_cancelled {answers : Nat → Bool} {before : List Turn} (after : List Turn) {q : Progress}
    (hno : ∀ i < (before.flatMap Turn.managers).length, answers (p.checks + i) = false)
    (hyes : answers (p.checks + (before.flatMap Turn.managers).length) = true)
    (hbefore : (g.runTurns none before).run p = (.ok (), q)) :
    (g.runTurns (some answers) (before ++ .build application index m :: after)).run p =
      (.error (.cancelled m.name), { q with
        checks := p.checks + (before.flatMap Turn.managers).length + 1
        journal := q.journal.emit .warning logger "generation_cancelled" [("workflow", .string m.name)] }) := by
  obtain ⟨later, hrun, hlater⟩ := runTurns_asked (g := g) (p := p) hno
  rw [hbefore] at hrun hlater
  rw [← hlater rfl] at hyes ⊢
  have hturn : (g.runTurn (some answers) (.build application index m)).run (q.asked later) =
      (.error (.cancelled m.name), { q with
        checks := later + 1
        journal := q.journal.emit .warning logger "generation_cancelled" [("workflow", .string m.name)] }) := by
    rw [runTurn, Run.run_bind, checkCancelled_some_run]
    simp only [Progress.asked, hyes]
    rfl
  change (g.runTurns (some answers) before).run p = _ at hrun
  rw [runTurns_append, Run.run_bind, hrun]
  dsimp only
  rw [runTurns_cons_run, hturn]

/-- A run that breaks off before it is told to stop breaks off as one that is not asked. -/
theorem runTurns_broken {answers : Nat → Bool} {before : List Turn} (after : List Turn) {s : Stop} {q : Progress}
    (hno : ∀ i < (before.flatMap Turn.managers).length, answers (p.checks + i) = false)
    (hbefore : (g.runTurns none before).run p = (.error s, q)) :
    ∃ later, (g.runTurns (some answers) (before ++ after)).run p = (.error s, q.asked later) := by
  obtain ⟨later, hrun, _⟩ := runTurns_asked (g := g) (p := p) hno
  rw [hbefore] at hrun
  change (g.runTurns (some answers) before).run p = _ at hrun
  rw [runTurns_append, Run.run_bind, hrun]
  exact ⟨later, rfl⟩

end

end Generator

/-- Two runs that have done the same and leave the same settings bound, whatever the log tells of their ends. -/
structure Progress.DidTheSame (p q : Progress) : Prop where
  disk : p.disk = q.disk
  issues : p.issues = q.issues
  written : p.written = q.written
  workflows : p.workflows = q.workflows
  stamps : p.stamps = q.stamps
  bound : p.journal.bound = q.journal.bound

open Generator in
/-- A run that is told to stop before a process manager, and not earlier, has done what a run over the process managers
before that one does, whatever errors that one found, and ends with the name of the process manager; if that run breaks
off, it breaks off in the same way. A run that is never told to stop is one that is not asked, but for the count. -/
theorem cancellation_stops_between_managers (g : Generator) (answers : Nat → Bool) (model : MigrationModel)
    (p : Progress) (htarget : model.target.hostsStandard = true) :
    (∀ k m, model.managers[k]? = some m → (∀ i < k, answers (p.checks + i) = false) → answers (p.checks + k) = true →
      let run := (g.generate (some answers) model).run p
      let cut := (g.generate none (model.cutTo k)).run p
      (model.cutTo k).managers = model.managers.take k ∧ run.2.DidTheSame cut.2 ∧
      ((∀ f, cut.1 ≠ .error (.fault f)) → run.1 = .error (.cancelled m.name)) ∧
      ∀ f, cut.1 = .error (.fault f) → run.1 = .error (.fault f)) ∧
    ((∀ i < model.managers.length, answers (p.checks + i) = false) →
      ∃ checks, (g.generate (some answers) model).run p =
        (((g.generate none model).run p).1, ((g.generate none model).run p).2.asked checks)) := by
  constructor
  · intro k m hm hno hyes run cut
    have hmanagers : (model.cutTo k).managers = model.managers.take k := Application.managers_upTo k model.applications
    obtain ⟨application, index, after, hturns⟩ := turns_cutTo hm
    have hcount : ((turns 0 (model.cutTo k).applications).flatMap Turn.managers).length = k := by
      rw [managers_turns, ← MigrationModel.managers, hmanagers, List.length_take]
      exact Nat.min_eq_left (List.getElem?_eq_some_iff.mp hm).1.le
    rw [← hcount] at hno hyes
    have hrun : run = _ := g.generate_run (some answers) model p
    have hcut : cut = _ := g.generate_run none (model.cutTo k) p
    rw [if_pos htarget, hturns] at hrun
    rw [if_pos (show (model.cutTo k).target.hostsStandard = true from htarget)] at hcut
    refine ⟨hmanagers, ?_⟩
    cases hbefore : (g.runTurns none (turns 0 (model.cutTo k).applications)).run p with
    | mk result q =>
        rw [hbefore] at hcut
        cases result with
        | ok =>
            rw [runTurns_cancelled after hno hyes hbefore] at hrun
            rw [hrun, hcut]
            refine ⟨⟨rfl, rfl, rfl, rfl, rfl, rfl⟩, fun _ => rfl, fun f hf => ?_⟩
            dsimp only at hf
            split at hf
            · cases hf
            · cases hf
        | error s =>
            obtain ⟨later, hbroken⟩ := runTurns_broken (.build application index m :: after) hno hbefore
            obtain ⟨f, rfl⟩ := fault_of_runTurns_none hbefore
            rw [hbroken] at hrun
            rw [hrun, hcut]
            exact ⟨⟨rfl, rfl, rfl, rfl, rfl, rfl⟩, fun h => absurd rfl (h f), fun f' hf => hf⟩
  · intro hno
    rw [MigrationModel.managers, ← managers_turns 0] at hno
    obtain ⟨later, hrun, _⟩ := runTurns_asked (g := g) (p := p) hno
    change (g.runTurns (some answers) (turns 0 model.applications)).run p = _ at hrun
    refine ⟨later, ?_⟩
    rw [generate_run, generate_run, if_pos htarget, if_pos htarget, hrun]
    cases (g.runTurns none (turns 0 model.applications)).run p with
    | mk result q => cases result <;> rfl

/-- A process manager with a document that can be written. -/
def haltedManager (name output : String) : ProcessManager :=
  smallManager name "flow" [(.appSettings, "app.json", none, output)]

/-- A process manager with a skeleton that is no JSON, an application without process managers, and two more. -/
def haltedModel : MigrationModel :=
  ⟨.standard, [⟨"first", [smallManager "a" "flow" [(.connections, "bad.json", none, "a.json")]]⟩, ⟨"idle", []⟩,
    ⟨"second", [haltedManager "b" "b.json", haltedManager "c" "c.json"]⟩]⟩

def haltedStart : Progress :=
  Progress.start (smallDisk [("bad.json", .text "oops"), ("app.json", .text "\x7b\x7d")]) .empty 0

/-- The run that is told to stop before the third process manager. -/
def haltedRun : Except Stop Report × Progress :=
  (smallGenerator.generate (some (· == 2)) haltedModel).run haltedStart

/-- The run over the first two. -/
def haltedCut : Except Stop Report × Progress :=
  (smallGenerator.generate none (haltedModel.cutTo 2)).run haltedStart

/-- The run over the first two fails, and the other is cancelled with the same on the disk. -/
theorem cancellation_stops_between_managers_failing :
    haltedRun.1 = .error (.cancelled "c") ∧ haltedRun.2.disk = haltedCut.2.disk ∧
      haltedCut.1 = .error (.failed haltedCut.2.report) ∧
      haltedCut.2.written = [⟨0, ["generated", "b.json"]⟩] := by
  have hcut : haltedCut.1 = .error (.failed haltedCut.2.report) ∧
      haltedCut.2.written = [⟨0, ["generated", "b.json"]⟩] := by
    decide +kernel
  have hcancelled := (cancellation_stops_between_managers smallGenerator (· == 2) haltedModel haltedStart rfl).1 2
    (haltedManager "c" "c.json") rfl (by decide) rfl
  have hsame : haltedRun.2.DidTheSame haltedCut.2 := hcancelled.2.1
  have hname : (∀ f, haltedCut.1 ≠ .error (.fault f)) → haltedRun.1 = .error (.cancelled "c") := hcancelled.2.2.1
  refine ⟨hname fun f hf => ?_, hsame.disk, hcut⟩
  rw [hcut.1] at hf
  cases hf

end WorkflowForge
