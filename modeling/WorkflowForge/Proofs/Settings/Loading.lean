import WorkflowForge.Proofs.Settings.Variables
import WorkflowForge.Proofs.Yaml.Mistakes
import WorkflowForge.Settings.Load

/-!
How the loading of the settings ends. Whatever the files hold and the variables say, the file that stood in for the
project's own is given up. The settings are checked only once both files and the environment have been read and merged:
a text that is no YAML is refused before, but a value that does not exist, a variable that should be JSON and is not, or
a file that holds no settings under names stops the loading for that reason.
-/

namespace WorkflowForge.Settings

open Environment (AllNamed overlay allNamed_overlay)

/-- The loading ends with settings that passed the checks, or refuses them. -/
def AsDocumented : Except Stop Settings → Prop
  | .ok _ | .error (.refused _) => True
  | .error _ => False

instance (outcome : Except Stop Settings) : Decidable (AsDocumented outcome) :=
  match outcome with
  | .ok _ | .error (.refused _) => isTrue trivial
  | .error (.disk _) | .error (.yaml _) | .error (.badVariable _) | .error .notSettings | .error .notNamed => isFalse id

/-! ### The course of a load -/

/-- The data of a settings file, without the log. -/
def fileData (disk : Disk) (path : Path) : Except Stop Datum := (sourceData disk path .empty).1

theorem sourceData_fst (disk : Disk) (path : Path) (j : Journal) : (sourceData disk path j).1 = fileData disk path := by
  unfold fileData sourceData
  split
  · rfl
  · split
    · rfl
    · split <;> rfl

/-- Merged settings that passed the checks, or the first complaint about them. -/
def checked (entries : Datum.Entries) : Except Stop Settings :=
  match check entries with
  | .ok settings => .ok settings
  | .error violations => .error (.refused (.invalid (violations.headD default)))

theorem accept_fst (disk : Disk) (entries : Datum.Entries) (j : Journal) :
    (accept disk entries j).1 = checked entries := by
  unfold accept checked
  dsimp only
  cases check entries <;> rfl

/-- The settings of all sources, without the log. -/
def outcome (disk : Disk) (env : Environment) (project : Path) : Except Stop Settings := do
  let project ← fileData disk project
  let user ← fileData disk (userFile disk)
  let environment ← env.settings.mapError .badVariable
  checked (← merge environment project user)

theorem fromSources_fst (disk : Disk) (env : Environment) (path : Path) (j : Journal) :
    (fromSources disk env path j).1 = outcome disk env path := by
  unfold fromSources outcome
  rw [← sourceData_fst disk path j]
  cases sourceData disk path j with
  | mk project j =>
      cases project with
      | error stop => rfl
      | ok project =>
          dsimp only [bind, Except.bind]
          rw [← sourceData_fst disk (userFile disk) j]
          cases sourceData disk (userFile disk) j with
          | mk user j =>
              cases user with
              | error stop => rfl
              | ok user =>
                  dsimp only
                  cases env.settings with
                  | error b => rfl
                  | ok environment =>
                      dsimp only [Except.mapError]
                      cases merge environment project user with
                      | error stop => rfl
                      | ok entries => exact accept_fst disk entries j

theorem build_run (disk : Disk) (env : Environment) (desk : Desk) :
    ∃ journal, (build disk env).run.run desk =
      (outcome disk env (desk.projectOverride.getD (projectFile disk)), { desk with journal := journal }) := by
  have hconclude : ∀ (result : Except Stop Settings) (j : Journal),
      (conclude result j).run.run desk = (result, { desk with journal := j }) := by
    intro result j
    cases result <;> rfl
  rw [← fromSources_fst disk env _ desk.journal]
  exact ⟨_, hconclude _ _⟩

/-- What is done in the end is done however a step ends. -/
theorem tryFinally_modify_run (step : Loading α) (f : Desk → Desk) (desk : Desk) :
    (tryFinally step (modify f)).run.run desk = ((step.run.run desk).1, f (step.run.run desk).2) := by
  change _ = ((step desk).1, f (step desk).2)
  dsimp only [tryFinally, tryFinally', Functor.map, ExceptT.map, ExceptT.mk, bind, StateT.bind, ExceptT.run, StateT.run]
  cases step desk with
  | mk result desk => cases result <;> rfl

theorem loadAt_run (disk : Disk) (env : Environment) (path : Option Path) (desk : Desk) :
    ∃ journal, (loadAt disk env path).run.run desk =
      (outcome disk env (path.getD (projectFile disk)), ⟨journal, none⟩) := by
  -- the stand-in is that of this load, whatever was left of an earlier one
  have hload : ∀ journal, ∃ later, (tryFinally (build disk env)
      (modify fun desk => { desk with projectOverride := none })).run.run
        ⟨journal, some (path.getD (projectFile disk))⟩ =
      (outcome disk env (path.getD (projectFile disk)), ⟨later, none⟩) := by
    intro journal
    obtain ⟨later, hbuild⟩ := build_run disk env ⟨journal, some (path.getD (projectFile disk))⟩
    rw [tryFinally_modify_run, hbuild]
    exact ⟨later, rfl⟩
  unfold loadAt
  dsimp only
  split
  · exact hload _
  · exact hload _

/-! ### Files -/

/-- What the reading of a settings file comes to. -/
inductive Reads (disk : Disk) (path : Path) : Except Stop Datum → Prop
  | missing (hthere : disk.isThere path = false) : Reads disk path (.ok (.map []))
  | unreadable {e : DiskError} (hthere : disk.isThere path = true) (hread : disk.readText path = .error e) :
      Reads disk path (.error (.disk e))
  | badYaml {s : String} (hthere : disk.isThere path = true) (hread : disk.readText path = .ok s)
      (hload : Yaml.load s = .error .malformed) : Reads disk path (.error (.refused (.badYaml path)))
  | mistake {s : String} {m : Yaml.Mistake} (hthere : disk.isThere path = true) (hread : disk.readText path = .ok s)
      (hload : Yaml.load s = .error m) (hm : m ≠ .malformed) : Reads disk path (.error (.yaml m))
  | data {s : String} {d : Datum} (hthere : disk.isThere path = true) (hread : disk.readText path = .ok s)
      (hload : Yaml.load s = .ok d) : Reads disk path (.ok (if isSomething d then d else .map []))

theorem reads_fileData (disk : Disk) (path : Path) : Reads disk path (fileData disk path) := by
  unfold fileData sourceData
  cases hthere : disk.isThere path with
  | false => exact .missing hthere
  | true =>
      rw [if_neg (by decide)]
      cases hread : disk.readText path with
      | error e => exact .unreadable hthere hread
      | ok s =>
          dsimp only
          cases hload : Yaml.load s with
          | error m =>
              by_cases hm : m = .malformed
              · subst hm
                exact .badYaml hthere hread hload
              · cases m with
                | malformed => exact absurd rfl hm
                | _ => exact .mistake hthere hread hload nofun
          | ok d =>
              cases d with
              | null => exact .data (d := .null) hthere hread hload
              | _ => exact .data hthere hread hload

/-- A file is read in one way only. -/
theorem Reads.eq {disk : Disk} {path : Path} {x y : Except Stop Datum} (hx : Reads disk path x)
    (hy : Reads disk path y) : x = y := by
  cases hx <;> cases hy <;> simp_all

theorem reads_iff {disk : Disk} {path : Path} {x : Except Stop Datum} : Reads disk path x ↔ fileData disk path = x :=
  ⟨fun h => (reads_fileData disk path).eq h, fun h => h ▸ reads_fileData disk path⟩

/-! ### Names -/

/-- The data of a file are settings under names. -/
def IsNamed (d : Datum) : Prop := ∃ entries, d = .map entries ∧ AllNamed entries

/-- Settings laid over a mapping are named if both are; nothing can be laid over anything else. -/
theorem layOver_cases (upper : Datum.Entries) (d : Datum) :
    (∃ base, d = .map base ∧ layOver upper d = .ok (overlay upper base)) ∨
      ¬ IsNamed d ∧ (layOver upper d = .error .notSettings ∨ layOver upper d = .error .notNamed) := by
  cases d with
  | map base => exact .inl ⟨base, rfl, rfl⟩
  | list items | set items =>
      cases upper with
      | nil => exact .inr ⟨nofun, .inl rfl⟩
      | cons entry upper => exact .inr ⟨nofun, .inr rfl⟩
  | _ => exact .inr ⟨nofun, .inl rfl⟩

theorem isNamed_map {entries : Datum.Entries} : IsNamed (.map entries) ↔ AllNamed entries := by
  refine ⟨?_, fun h => ⟨entries, rfl, h⟩⟩
  rintro ⟨_, ⟨⟩, h⟩
  exact h

theorem merge_maps (environment base lower : Datum.Entries) :
    (AllNamed (overlay (overlay environment base) lower) ∧
      ∃ entries, merge environment (.map base) (.map lower) = .ok entries) ∨
    ¬ AllNamed (overlay (overlay environment base) lower) ∧
      merge environment (.map base) (.map lower) = .error .notNamed := by
  unfold merge
  dsimp only [layOver, bind, Except.bind]
  generalize overlay (overlay environment base) lower = entries
  split
  · rename_i hall
    refine .inl ⟨?_, entries, rfl⟩
    rintro ⟨key, v⟩ hmem
    have hkey := List.all_eq_true.mp hall _ hmem
    cases key with
    | text s => exact ⟨s, rfl⟩
    | _ => cases hkey
  · rename_i hall
    refine .inr ⟨fun hnamed => hall (List.all_eq_true.mpr ?_), rfl⟩
    rintro ⟨key, v⟩ hmem
    obtain ⟨s, rfl⟩ : ∃ s, key = .text s := hnamed _ hmem
    rfl

/-- The settings of all sources come together exactly if both files hold settings under names. -/
theorem merge_cases {environment : Datum.Entries} (henv : AllNamed environment) (project user : Datum) :
    ((IsNamed project ∧ IsNamed user) ∧ ∃ entries, merge environment project user = .ok entries) ∨
      ¬ (IsNamed project ∧ IsNamed user) ∧
        (merge environment project user = .error .notSettings ∨ merge environment project user = .error .notNamed) := by
  -- the names from the environment are texts, so the names in the files decide
  rcases layOver_cases environment project with ⟨base, rfl, hbase⟩ | ⟨hproject, hstop⟩
  · rcases layOver_cases (overlay environment base) user with ⟨lower, rfl, _⟩ | ⟨huser, hstop⟩
    · rw [isNamed_map, isNamed_map]
      rcases merge_maps environment base lower with ⟨hnamed, hmerged⟩ | ⟨hnamed, hstop⟩
      · rw [allNamed_overlay, allNamed_overlay] at hnamed
        exact .inl ⟨⟨hnamed.1.2, hnamed.2⟩, hmerged⟩
      · rw [allNamed_overlay, allNamed_overlay] at hnamed
        exact .inr ⟨fun h => hnamed ⟨⟨henv, h.1⟩, h.2⟩, .inr hstop⟩
    · refine .inr ⟨fun h => huser h.2, ?_⟩
      unfold merge
      rw [hbase]
      exact hstop.imp (fun h => by dsimp only [bind, Except.bind]; rw [h]) fun h => by
        dsimp only [bind, Except.bind]
        rw [h]
  · refine .inr ⟨fun h => hproject h.1, ?_⟩
    unfold merge
    exact hstop.imp (fun h => by rw [h]; rfl) fun h => by rw [h]; rfl

/-! ### Ends -/

theorem refused_of_asDocumented {stop : Stop} (h : AsDocumented (.error stop)) : ∃ r, stop = .refused r := by
  cases stop with
  | refused r => exact ⟨r, rfl⟩
  | _ => exact h.elim

theorem asDocumented_bind {x : Except Stop α} {f : α → Except Stop Settings} :
    AsDocumented (x >>= f) ↔ (∃ r, x = .error (.refused r)) ∨ ∃ a, x = .ok a ∧ AsDocumented (f a) := by
  cases x with
  | ok a =>
      refine ⟨fun h => .inr ⟨a, rfl, h⟩, ?_⟩
      rintro (⟨_, ⟨⟩⟩ | ⟨_, ⟨⟩, h⟩)
      exact h
  | error stop =>
      refine ⟨fun h => .inl ?_, ?_⟩
      · obtain ⟨r, rfl⟩ := refused_of_asDocumented h
        exact ⟨r, rfl⟩
      · rintro (⟨_, ⟨⟩⟩ | ⟨_, ⟨⟩, _⟩)
        trivial

theorem asDocumented_checked (entries : Datum.Entries) : AsDocumented (checked entries) := by
  unfold checked
  split <;> trivial

/-- Settings from all sources are checked exactly if both files hold settings under names. -/
theorem asDocumented_merged {environment : Datum.Entries} (henv : AllNamed environment) (project user : Datum) :
    AsDocumented (merge environment project user >>= checked) ↔ IsNamed project ∧ IsNamed user := by
  rcases merge_cases henv project user with ⟨hnamed, entries, hmerge⟩ | ⟨hnot, hstop⟩
  · rw [hmerge]
    exact ⟨fun _ => hnamed, fun _ => asDocumented_checked entries⟩
  · rcases hstop with hstop | hstop
    · rw [hstop]
      exact ⟨nofun, fun h => absurd h hnot⟩
    · rw [hstop]
      exact ⟨nofun, fun h => absurd h hnot⟩

/-- All that is read as JSON in the environment is JSON. -/
def AllJson (env : Environment) : Prop :=
  ∀ value, Environment.IsReadAsJson env.lowered value → ∃ v, Json.read value = .ok v

theorem asDocumented_variables (env : Environment) (project user : Datum) :
    AsDocumented (env.settings.mapError .badVariable >>= fun upper => merge upper project user >>= checked) ↔
      AllJson env ∧ IsNamed project ∧ IsNamed user := by
  unfold AllJson
  rw [← env.isOk_settings]
  cases hsettings : env.settings with
  | error b => exact ⟨nofun, nofun⟩
  | ok environment =>
      exact (asDocumented_merged (Environment.allNamed_of_settings hsettings) project user).trans
        ⟨fun h => ⟨rfl, h⟩, fun h => h.2⟩

/-- What stops the loading without a refusal. -/
inductive Escapes (disk : Disk) (env : Environment) (project : Path) : Stop → Prop
  | unreadable {path : Path} {e : DiskError} (hpath : path ∈ [project, userFile disk])
      (hread : disk.readText path = .error e) : Escapes disk env project (.disk e)
  | valueless {path : Path} {s : String} {m : Yaml.Mistake} (hpath : path ∈ [project, userFile disk])
      (hread : disk.readText path = .ok s) (hload : Yaml.load s = .error m) (hvalue : Yaml.HoldsNoValue s m) :
      Escapes disk env project (.yaml m)
  | notJson {value : String} (hread : Environment.IsReadAsJson env.lowered value)
      (hjson : ¬ ∃ v, Json.read value = .ok v) (b : Environment.BadVariable) : Escapes disk env project (.badVariable b)
  | unnamed {path : Path} {d : Datum} {stop : Stop} (hpath : path ∈ [project, userFile disk])
      (hread : Reads disk path (.ok d)) (hnamed : ¬ IsNamed d) (hstop : stop = .notSettings ∨ stop = .notNamed) :
      Escapes disk env project stop

theorem Reads.escapes {disk : Disk} {env : Environment} {project path : Path} {stop : Stop}
    (hread : Reads disk path (.error stop)) (hpath : path ∈ [project, userFile disk]) (hstop : ∀ r, stop ≠ .refused r) :
    Escapes disk env project stop := by
  cases hread with
  | unreadable _ hread => exact .unreadable hpath hread
  | badYaml => exact absurd rfl (hstop _)
  | mistake _ hread hload hm => exact .valueless hpath hread hload (Yaml.holdsNoValue_of_load hload hm)

section

variable {disk : Disk} {env : Environment} {project : Path} {d u : Datum} {stop : Stop}

theorem escapes_of_settings {b : Environment.BadVariable} (hsettings : env.settings = .error b) :
    Escapes disk env project (.badVariable b) := by
  have hjson : ¬ AllJson env := fun hall => by
    have hok := env.isOk_settings.mpr hall
    rw [hsettings] at hok
    cases hok
  obtain ⟨value, hvalue⟩ := Classical.not_forall.mp hjson
  obtain ⟨hread, hvalue⟩ := Classical.not_imp.mp hvalue
  exact .notJson hread hvalue b

theorem escapes_of_not_isNamed (hproject : Reads disk project (.ok d)) (huser : Reads disk (userFile disk) (.ok u))
    (hnamed : ¬ (IsNamed d ∧ IsNamed u)) (hstop : stop = .notSettings ∨ stop = .notNamed) :
    Escapes disk env project stop := by
  by_cases hd : IsNamed d
  · exact .unnamed (by simp) huser (fun hu => hnamed ⟨hd, hu⟩) hstop
  · exact .unnamed (by simp) hproject hd hstop

theorem escapes_of_variables (hproject : Reads disk project (.ok d)) (huser : Reads disk (userFile disk) (.ok u))
    (h : (env.settings.mapError .badVariable >>= fun upper => merge upper d u >>= checked) = .error stop)
    (hstop : ∀ r, stop ≠ .refused r) : Escapes disk env project stop := by
  cases hsettings : env.settings with
  | error b =>
      rw [hsettings] at h
      cases h
      exact escapes_of_settings hsettings
  | ok environment =>
      rw [hsettings] at h
      change merge environment d u >>= checked = _ at h
      rcases merge_cases (Environment.allNamed_of_settings hsettings) d u with ⟨_, entries, hmerge⟩ | ⟨hnot, hmerge⟩
      · have hchecked := asDocumented_checked entries
        rw [hmerge] at h
        rw [show checked entries = .error stop from h] at hchecked
        obtain ⟨r, hr⟩ := refused_of_asDocumented hchecked
        exact absurd hr (hstop r)
      · refine escapes_of_not_isNamed hproject huser hnot (hmerge.imp ?_ ?_)
        · intro hmerge
          rw [hmerge] at h
          cases h
          rfl
        · intro hmerge
          rw [hmerge] at h
          cases h
          rfl

theorem escapes_of_outcome (h : outcome disk env project = .error stop) (hstop : ∀ r, stop ≠ .refused r) :
    Escapes disk env project stop := by
  unfold outcome at h
  cases hproject : fileData disk project with
  | error e =>
      rw [hproject] at h
      cases h
      exact (reads_iff.mpr hproject).escapes (by simp) hstop
  | ok d =>
      rw [hproject] at h
      cases huser : fileData disk (userFile disk) with
      | error e =>
          rw [huser] at h
          cases h
          exact (reads_iff.mpr huser).escapes (by simp) hstop
      | ok u =>
          rw [huser] at h
          exact escapes_of_variables (reads_iff.mpr hproject) (reads_iff.mpr huser) h hstop

end

theorem refused_iff {disk : Disk} {path : Path} :
    (∃ r, fileData disk path = .error (.refused r)) ↔ Reads disk path (.error (.refused (.badYaml path))) := by
  refine ⟨?_, fun h => ⟨_, reads_iff.mp h⟩⟩
  rintro ⟨r, hr⟩
  have hreads := reads_iff.mpr hr
  cases hreads with
  | badYaml hthere hread hload => exact .badYaml hthere hread hload

theorem asDocumented_outcome (disk : Disk) (env : Environment) (project : Path) :
    AsDocumented (outcome disk env project) ↔
      Reads disk project (.error (.refused (.badYaml project))) ∨
      ∃ d, Reads disk project (.ok d) ∧
        (Reads disk (userFile disk) (.error (.refused (.badYaml (userFile disk)))) ∨
        ∃ u, Reads disk (userFile disk) (.ok u) ∧ AllJson env ∧ IsNamed d ∧ IsNamed u) :=
  asDocumented_bind.trans (or_congr refused_iff (exists_congr fun d => and_congr reads_iff.symm
    (asDocumented_bind.trans (or_congr refused_iff (exists_congr fun u => and_congr reads_iff.symm
      (asDocumented_variables env d u))))))

/-- A disk with the project's settings in the working directory. -/
def diskWithSettings (s : String) : Disk := ⟨[(["flowsmith.yaml"], .file (.text s))], [], []⟩

end WorkflowForge.Settings
