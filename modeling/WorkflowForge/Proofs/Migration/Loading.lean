import WorkflowForge.Migration.Load
import WorkflowForge.Proofs.Files.Writing
import WorkflowForge.Proofs.Yaml.Mistakes

/-!
How the loading of a model ends. A file that is missing, that is no JSON or no YAML or whose data are no model is
refused with its path. Two kinds of files are not refused but stop the loading for another reason: bytes that are no
text, and YAML in which something has no value.
-/

namespace WorkflowForge

instance decidableEqError [DecidableEq ε] (x : Except ε α) (e : ε) : Decidable (x = .error e) :=
  match x with
  | .ok _ => isFalse nofun
  | .error f => decidable_of_iff (f = e) (by simp)

namespace MigrationModel

/-- The loading of a file ends with a model that passed the checks, or refuses the file. -/
def AsDocumented (path : Path) (outcome : Except LoadStop MigrationModel) : Prop :=
  (∃ data model, ofDatum data = .ok model ∧ outcome = .ok model) ∨ ∃ f, outcome = .error (.refused path f)

/-- The file holds bytes that are no text. -/
def IsRaw (disk : Disk) (path : Path) : Prop := ∃ bytes, disk.readContent path = .ok (.raw bytes)

/-- The file holds YAML that is well formed and still has no data. -/
def HasMistake (disk : Disk) (path : Path) (m : Yaml.Mistake) : Prop :=
  path.hasSuffixIn [".json"] = false ∧ m ≠ .malformed ∧ ∃ s, disk.readText path = .ok s ∧ Yaml.load s = .error m

theorem asDocumented_accept (path : Path) (data : Datum) : AsDocumented path (accept path data) := by
  unfold accept
  split
  · exact .inl ⟨data, _, by assumption, rfl⟩
  · exact .inr ⟨_, rfl⟩
  · exact .inr ⟨_, rfl⟩

theorem load_of_readData {disk : Disk} {path : Path} {data : Datum} (j : Journal)
    (hdata : readData disk path = .ok data) : AsDocumented path (load disk path j).1 := by
  unfold load
  rw [hdata]
  dsimp only
  split
  · rename_i stop hstop
    exact hstop ▸ asDocumented_accept path _
  · rename_i model hmodel
    exact hmodel ▸ asDocumented_accept path _

theorem load_of_stop {disk : Disk} {path : Path} {stop : LoadStop} (j : Journal)
    (hstop : readData disk path = .error stop) : (load disk path j).1 = .error stop := by
  unfold load
  rw [hstop]

section

variable {disk : Disk} {path : Path}

theorem readData_of_isRaw (hraw : IsRaw disk path) : readData disk path = .error (.disk .undecodable) := by
  obtain ⟨bytes, hbytes⟩ := hraw
  have hfile : disk.isFile path = true := (disk.isFile_iff path).mpr ⟨_, hbytes⟩
  have hread : disk.readText path = .error .undecodable := by
    rw [Disk.readText, hbytes]
    rfl
  rw [readData, hfile, hread]
  rfl

theorem readData_of_text {s : String} (hread : disk.readText path = .ok s) : readData disk path = parseText path s := by
  have hfile : disk.isFile path = true := by
    refine (disk.isFile_iff path).mpr ?_
    cases hcontent : disk.readContent path with
    | ok content => exact ⟨content, rfl⟩
    | error e =>
        rw [Disk.readText, hcontent] at hread
        cases hread
  rw [readData, hfile, if_neg (by decide), hread]

theorem readData_of_hasMistake {m : Yaml.Mistake} (h : HasMistake disk path m) :
    readData disk path = .error (.yaml m) := by
  obtain ⟨hsuffix, hm, s, hread, hload⟩ := h
  rw [readData_of_text hread, parseText, hsuffix, if_neg (by decide), hload]
  cases m with
  | malformed => exact absurd rfl hm
  | _ => rfl

/-- The data of a file are read or refused, unless the file is one of those that are not. -/
theorem readData_cases (disk : Disk) (path : Path) :
    (∃ data, readData disk path = .ok data) ∨ (∃ f, readData disk path = .error (.refused path f)) ∨
      IsRaw disk path ∨ ∃ m, HasMistake disk path m := by
  cases hfile : disk.isFile path with
  | false => exact .inr (.inl ⟨.notFound, by rw [readData, hfile]; rfl⟩)
  | true =>
      obtain ⟨content, hcontent⟩ := (disk.isFile_iff path).mp hfile
      cases content with
      | raw bytes => exact .inr (.inr (.inl ⟨bytes, hcontent⟩))
      | text s =>
          have hread : disk.readText path = .ok (Text.withUnixLines s) := by
            rw [Disk.readText, hcontent]
            rfl
          rw [readData_of_text hread, parseText]
          cases hsuffix : path.hasSuffixIn [".json"] with
          | true =>
              rw [if_pos rfl]
              cases Json.read (Text.withUnixLines s) with
              | ok v => exact .inl ⟨_, rfl⟩
              | error e => exact .inr (.inl ⟨_, rfl⟩)
          | false =>
              rw [if_neg (by decide)]
              cases hload : Yaml.load (Text.withUnixLines s) with
              | ok d => exact .inl ⟨_, rfl⟩
              | error m =>
                  by_cases hm : m = .malformed
                  · subst hm
                    exact .inr (.inl ⟨_, rfl⟩)
                  · exact .inr (.inr (.inr ⟨m, hsuffix, hm, _, hread, hload⟩))

end

theorem not_asDocumented_disk (path : Path) (e : DiskError) : ¬ AsDocumented path (.error (.disk e)) := by
  rintro (⟨_, _, _, hok⟩ | ⟨_, hrefused⟩)
  · cases hok
  · cases hrefused

theorem not_asDocumented_yaml (path : Path) (m : Yaml.Mistake) : ¬ AsDocumented path (.error (.yaml m)) := by
  rintro (⟨_, _, _, hok⟩ | ⟨_, hrefused⟩)
  · cases hok
  · cases hrefused

/-- A disk with one file in the working directory. -/
def diskWith (name : String) (content : Content) : Disk := ⟨[([name], .file content)], [], []⟩

end MigrationModel

end WorkflowForge
