import WorkflowForge.Proofs.Files.Resolution

/-!
What writing does to the disk. A path can be walked exactly if there are directories at all locations that it passes, so
everything about a walk is said in terms of these. Making a directory makes some of the locations that its path visits
directories, where there was nothing, and changes nothing else; writing or copying a file does this for the directories
above it and then puts a file in its place, where there is no directory. Whether it ends well or fails, nothing that was
there is lost: directories stay, and files stay files.
-/

namespace WorkflowForge

namespace Path

/-- The locations that steps leave on their way. -/
def passed : Location → List String → List Location
  | _, [] => []
  | here, step :: steps => here :: passed (if step == ".." then here.dropLast else here ++ [step]) steps

theorem follow_cons (here : Location) (step : String) (steps : List String) :
    follow here (step :: steps) = follow (if step == ".." then here.dropLast else here ++ [step]) steps := by
  rw [follow]
  split
  · rfl
  · rfl

theorem passed_append_singleton (here : Location) (steps : List String) (step : String) :
    passed here (steps ++ [step]) = passed here steps ++ [follow here steps] := by
  induction steps generalizing here with
  | nil => rfl
  | cons first steps ih => rw [List.cons_append, passed, passed, follow_cons, ih, List.cons_append]

end Path

namespace Disk

theorem lookup_cons_eq (location other : Location) (e : Entry) (entries : List (Location × Entry)) :
    ((location, e) :: entries).lookup other = if other = location then some e else entries.lookup other := by
  rw [List.lookup_cons]
  by_cases h : other = location
  · simp [h]
  · have hne : (other == location) = false := by simpa using h
    simp [h, hne]

theorem lookup_setEntry (location other : Location) (e : Entry) (entries : List (Location × Entry)) :
    (setEntry location e entries).lookup other = if other = location then some e else entries.lookup other := by
  induction entries with
  | nil => exact lookup_cons_eq location other e []
  | cons first rest ih =>
      obtain ⟨l, old⟩ := first
      rw [setEntry, lookup_cons_eq]
      by_cases hl : l = location
      · subst hl
        rw [if_pos (by simp), lookup_cons_eq]
        split <;> rfl
      · rw [if_neg (by simpa using hl), lookup_cons_eq, ih]
        by_cases h : other = l
        · simp [h, hl]
        · simp [h]

theorem entryAt?_of_ne_nil (d : Disk) {location : Location} (h : location ≠ []) :
    d.entryAt? location = d.entries.lookup location := by
  cases location with
  | nil => exact absurd rfl h
  | cons first rest => rfl

theorem entryAt?_put (d : Disk) {location : Location} (h : location ≠ []) (e : Entry) (other : Location) :
    (d.put location e).entryAt? other = if other = location then some e else d.entryAt? other := by
  by_cases hother : other = []
  · subst hother
    rw [if_neg (Ne.symm h)]
    rfl
  · rw [entryAt?_of_ne_nil _ hother, entryAt?_of_ne_nil _ hother]
    exact lookup_setEntry location other e d.entries

/-- The locations that a path leaves on its way. -/
def passed (d : Disk) (p : Path) : List Location := Path.passed (d.start p) p.parts

/-- All locations that a path visits, its place included. -/
def visited (d : Disk) (p : Path) : List Location := d.passed p ++ [d.place p]

theorem passed_below (d : Disk) (slashes : Nat) (above : List String) (last : String) :
    d.passed ⟨slashes, above ++ [last]⟩ = d.visited ⟨slashes, above⟩ :=
  Path.passed_append_singleton _ above last

/-- A path can be walked exactly if there are directories at all locations that it passes. -/
theorem walk_eq_ok_iff (d : Disk) (here there : Location) (steps : List String) :
    d.walk here steps = .ok there ↔
      there = Path.follow here steps ∧ ∀ m ∈ Path.passed here steps, d.entryAt? m = some .directory := by
  induction steps generalizing here with
  | nil =>
      rw [walk, Path.follow, Path.passed, Except.ok.injEq]
      simp [eq_comm]
  | cons step steps ih =>
      rw [Path.follow_cons, Path.passed, List.forall_mem_cons, walk]
      cases hentry : d.entryAt? here with
      | none => simp
      | some e =>
          cases e with
          | file content => simp
          | directory =>
              dsimp only
              have hstep : (if (step == "..") = true then d.walk here.dropLast steps
                    else d.walk (here ++ [step]) steps) =
                  d.walk (if step == ".." then here.dropLast else here ++ [step]) steps := by
                split <;> rfl
              rw [hstep, ih]
              simp

theorem locate_eq_ok_iff (d : Disk) (p : Path) (there : Location) :
    d.locate p = .ok there ↔ there = d.place p ∧ ∀ m ∈ d.passed p, d.entryAt? m = some .directory :=
  d.walk_eq_ok_iff (d.start p) there p.parts

/-- A walk fails at a location where there is nothing, or a file. -/
theorem walk_eq_error {d : Disk} {here : Location} {steps : List String} {e : DiskError}
    (h : d.walk here steps = .error e) :
    (e = .notFound ∧ ∃ m ∈ Path.passed here steps, d.entryAt? m = none) ∨
      (e = .notDirectory ∧ ∃ m ∈ Path.passed here steps, ∃ content, d.entryAt? m = some (.file content)) := by
  induction steps generalizing here with
  | nil => cases h
  | cons step steps ih =>
      rw [walk] at h
      rw [Path.passed]
      cases hentry : d.entryAt? here with
      | none =>
          rw [hentry] at h
          cases h
          exact .inl ⟨rfl, here, List.mem_cons_self, hentry⟩
      | some entry =>
          rw [hentry] at h
          cases entry with
          | file content =>
              cases h
              exact .inr ⟨rfl, here, List.mem_cons_self, content, hentry⟩
          | directory =>
              have hrest : d.walk (if step == ".." then here.dropLast else here ++ [step]) steps = .error e := by
                dsimp only at h
                split at h
                · next hup => rw [if_pos hup]; exact h
                · next hname => rw [if_neg hname]; exact h
              rcases ih hrest with ⟨he, m, hm, hnone⟩ | ⟨he, m, hm, hfile⟩
              · exact .inl ⟨he, m, List.mem_cons_of_mem _ hm, hnone⟩
              · exact .inr ⟨he, m, List.mem_cons_of_mem _ hm, hfile⟩

theorem find_eq_ok_iff (d : Disk) (p : Path) (e : Entry) :
    d.find p = .ok e ↔ (∀ m ∈ d.passed p, d.entryAt? m = some .directory) ∧ d.entryAt? (d.place p) = some e := by
  unfold find
  cases hlocate : d.locate p with
  | error error =>
      have hnot : ¬ ∀ m ∈ d.passed p, d.entryAt? m = some .directory := by
        intro hpassed
        have hok := (d.locate_eq_ok_iff p (d.place p)).mpr ⟨rfl, hpassed⟩
        rw [hlocate] at hok
        cases hok
      constructor
      · intro h
        cases h
      · intro h
        exact absurd h.1 hnot
  | ok there =>
      obtain ⟨rfl, hpassed⟩ := (d.locate_eq_ok_iff p there).mp hlocate
      dsimp only [bind, Except.bind, pure, Except.pure]
      cases d.entryAt? (d.place p) with
      | none => simp
      | some found =>
          rw [and_iff_right hpassed]
          simp

theorem isDirectory_iff (d : Disk) (p : Path) :
    d.isDirectory p = true ↔ ∀ m ∈ d.visited p, d.entryAt? m = some .directory := by
  rw [visited, List.forall_mem_append, List.forall_mem_singleton, ← find_eq_ok_iff, isDirectory]
  split
  · next h => simp [h]
  · next h => simpa using h

theorem readContent_eq_ok_iff (d : Disk) (p : Path) (content : Content) :
    d.readContent p = .ok content ↔
      (∀ m ∈ d.passed p, d.entryAt? m = some .directory) ∧ d.entryAt? (d.place p) = some (.file content) := by
  rw [← find_eq_ok_iff]
  unfold readContent
  cases d.find p with
  | error e =>
      constructor
      · intro h
        cases h
      · intro h
        cases h
  | ok e =>
      cases e with
      | directory =>
          constructor
          · intro h
            cases h
          · intro h
            cases h
      | file found =>
          change Except.ok found = Except.ok content ↔ _
          simp

theorem isFile_iff (d : Disk) (p : Path) : d.isFile p = true ↔ ∃ content, d.readContent p = .ok content := by
  have hread : (∃ content, d.readContent p = .ok content) ↔ ∃ content, d.find p = .ok (.file content) := by
    refine exists_congr fun content => ?_
    rw [readContent_eq_ok_iff, find_eq_ok_iff]
  rw [hread, isFile]
  split
  · next content h => simp [h]
  · next h => simpa using h

theorem readText_of_isFile {d : Disk} {p : Path} {e : DiskError} (hfile : d.isFile p = true)
    (h : d.readText p = .error e) : e = .undecodable := by
  obtain ⟨content, hcontent⟩ := (d.isFile_iff p).mp hfile
  unfold readText at h
  rw [hcontent] at h
  cases content with
  | text s => cases h
  | raw bytes =>
      cases h
      rfl

/-- Nothing on a disk is lost: directories stay directories and files stay files. -/
structure Grows (d e : Disk) : Prop where
  workingDirectory : e.workingDirectory = d.workingDirectory
  directory {l : Location} (h : d.entryAt? l = some .directory) : e.entryAt? l = some .directory
  file {l : Location} {content : Content} (h : d.entryAt? l = some (.file content)) :
    ∃ later, e.entryAt? l = some (.file later)

namespace Grows

theorem refl (d : Disk) : d.Grows d := ⟨rfl, id, fun h => ⟨_, h⟩⟩

theorem trans {d e f : Disk} (hde : d.Grows e) (hef : e.Grows f) : d.Grows f where
  workingDirectory := hef.workingDirectory.trans hde.workingDirectory
  directory h := hef.directory (hde.directory h)
  file h := by
    obtain ⟨_, hlater⟩ := hde.file h
    exact hef.file hlater

theorem start_eq {d e : Disk} (h : d.Grows e) (p : Path) : e.start p = d.start p := by
  rw [start, start, h.workingDirectory]

theorem place_eq {d e : Disk} (h : d.Grows e) (p : Path) : e.place p = d.place p := by
  rw [place, place, h.start_eq]

theorem passed_eq {d e : Disk} (h : d.Grows e) (p : Path) : e.passed p = d.passed p := by
  rw [passed, passed, h.start_eq]

theorem visited_eq {d e : Disk} (h : d.Grows e) (p : Path) : e.visited p = d.visited p := by
  rw [visited, visited, h.passed_eq, h.place_eq]

theorem isDirectory {d e : Disk} (h : d.Grows e) {p : Path} (hp : d.isDirectory p = true) : e.isDirectory p = true := by
  rw [isDirectory_iff] at hp ⊢
  rw [h.visited_eq]
  intro m hm
  exact h.directory (hp m hm)

end Grows

/-- The working directory is a directory. -/
def Settled (d : Disk) : Prop := d.entryAt? d.workingDirectory = some .directory

theorem Grows.settled {d e : Disk} (h : d.Grows e) (hd : d.Settled) : e.Settled := by
  rw [Settled, h.workingDirectory]
  exact h.directory hd

/-- Directories were made at some of the given locations, where there was nothing, and nothing else happened. -/
structure Makes (locations : List Location) (d e : Disk) : Prop where
  workingDirectory : e.workingDirectory = d.workingDirectory
  entry (l : Location) : e.entryAt? l = d.entryAt? l ∨
    (d.entryAt? l = none ∧ e.entryAt? l = some .directory ∧ l ∈ locations)

namespace Makes

theorem refl (locations : List Location) (d : Disk) : Makes locations d d := ⟨rfl, fun _ => .inl rfl⟩

theorem trans {locations : List Location} {d e f : Disk} (hde : Makes locations d e) (hef : Makes locations e f) :
    Makes locations d f where
  workingDirectory := hef.workingDirectory.trans hde.workingDirectory
  entry l := by
    rcases hef.entry l with hsame | ⟨hnone, hmade, hmem⟩
    · rw [hsame]
      exact hde.entry l
    · rcases hde.entry l with hsame | ⟨_, hdirectory, _⟩
      · exact .inr ⟨by rw [← hsame, hnone], hmade, hmem⟩
      · rw [hdirectory] at hnone
        cases hnone

theorem widen {locations more : List Location} (h : locations ⊆ more) {d e : Disk} (hmakes : Makes locations d e) :
    Makes more d e where
  workingDirectory := hmakes.workingDirectory
  entry l := by
    rcases hmakes.entry l with hsame | ⟨hnone, hmade, hmem⟩
    · exact .inl hsame
    · exact .inr ⟨hnone, hmade, h hmem⟩

theorem put {locations : List Location} {d : Disk} {l : Location} (hnone : d.entryAt? l = none) (hmem : l ∈ locations) :
    Makes locations d (d.put l .directory) := by
  have hne : l ≠ [] := by
    rintro rfl
    cases hnone
  refine ⟨rfl, fun m => ?_⟩
  rw [entryAt?_put d hne]
  by_cases hm : m = l
  · subst hm
    exact .inr ⟨hnone, if_pos rfl, hmem⟩
  · exact .inl (if_neg hm)

theorem file_iff {locations : List Location} {d e : Disk} (h : Makes locations d e) (l : Location)
    (content : Content) : e.entryAt? l = some (.file content) ↔ d.entryAt? l = some (.file content) := by
  rcases h.entry l with hsame | ⟨hnone, hmade, _⟩
  · rw [hsame]
  · simp [hnone, hmade]

theorem grows {locations : List Location} {d e : Disk} (h : Makes locations d e) : d.Grows e where
  workingDirectory := h.workingDirectory
  directory {l} hl := by
    rcases h.entry l with hsame | ⟨hnone, _, _⟩
    · rw [hsame, hl]
    · rw [hnone] at hl
      cases hl
  file hl := ⟨_, (h.file_iff _ _).mpr hl⟩

end Makes

theorem makeOne_eq_ok {d e : Disk} {p : Path} (h : d.makeOne p = .ok e) :
    (∀ m ∈ d.passed p, d.entryAt? m = some .directory) ∧ d.entryAt? (d.place p) = none ∧
      e = d.put (d.place p) .directory := by
  unfold makeOne at h
  cases hlocate : d.locate p with
  | error error =>
      rw [hlocate] at h
      cases h
  | ok there =>
      obtain ⟨rfl, hpassed⟩ := (d.locate_eq_ok_iff p there).mp hlocate
      rw [hlocate] at h
      dsimp only [bind, Except.bind] at h
      cases hentry : d.entryAt? (d.place p) with
      | some entry =>
          rw [hentry] at h
          cases h
      | none =>
          rw [hentry] at h
          cases h
          exact ⟨hpassed, rfl, rfl⟩

theorem makeOne_makes {d e : Disk} {p : Path} (h : d.makeOne p = .ok e) : Makes (d.visited p) d e := by
  obtain ⟨_, hnone, rfl⟩ := makeOne_eq_ok h
  exact .put hnone (by simp [visited])

theorem makeOne_isDirectory {d e : Disk} {p : Path} (h : d.makeOne p = .ok e) : e.isDirectory p = true := by
  have hgrows := (makeOne_makes h).grows
  obtain ⟨hpassed, hnone, rfl⟩ := makeOne_eq_ok h
  have hne : d.place p ≠ [] := by
    intro hnil
    rw [hnil] at hnone
    cases hnone
  rw [isDirectory_iff, hgrows.visited_eq, visited, List.forall_mem_append, List.forall_mem_singleton]
  constructor
  · intro m hm
    exact hgrows.directory (hpassed m hm)
  · rw [entryAt?_put d hne, if_pos rfl]

/-- What making directories for a path comes to: directories at locations that it visits, all of them if it ends
well. -/
structure Ensures (p : Path) (d : Disk) (result : Except DiskError Unit × Disk) : Prop where
  makes : Makes (d.visited p) d result.2
  isDirectory (h : result.1 = .ok ()) : result.2.isDirectory p = true

theorem ensureOne_ensures (d : Disk) (p : Path) : Ensures p d (d.ensureOne p) := by
  unfold ensureOne
  split
  · next e h => exact ⟨makeOne_makes h, fun _ => makeOne_isDirectory h⟩
  · split
    · next hdirectory => exact ⟨.refl _ d, fun _ => hdirectory⟩
    · refine ⟨.refl _ d, fun h => ?_⟩
      cases h

theorem ensureAbove_ensures (slashes : Nat) (reversed : List String) (d : Disk) :
    Ensures ⟨slashes, reversed.reverse⟩ d (ensureAbove slashes reversed d) := by
  induction reversed with
  | nil => exact ensureOne_ensures d _
  | cons last above ih =>
      rw [ensureAbove]
      split
      · have habove : Makes (d.visited ⟨slashes, (last :: above).reverse⟩) d (ensureAbove slashes above d).2 := by
          apply ih.makes.widen
          rw [List.reverse_cons, ← passed_below d slashes above.reverse last]
          exact List.subset_append_left _ _
        split
        · next e he =>
            rw [he] at habove
            have hlast := ensureOne_ensures e ⟨slashes, (last :: above).reverse⟩
            refine ⟨habove.trans ?_, hlast.isDirectory⟩
            rw [← habove.grows.visited_eq]
            exact hlast.makes
        · next hfailed =>
            refine ⟨habove, fun hok => ?_⟩
            exact (hfailed _ (Prod.ext hok rfl)).elim
      · exact ensureOne_ensures d _

theorem ensureDirectory_ensures (d : Disk) (p : Path) : Ensures p d (d.ensureDirectory p) := by
  have hall := ensureAbove_ensures p.slashes p.parts.reverse d
  rwa [List.reverse_reverse] at hall

/-- A file was put in the place of a path, where there is no directory, after the directories above it were made. -/
def Writes (target : Path) (content : Content) (d e : Disk) : Prop :=
  ∃ between, Makes (d.visited target.parent) d between ∧ between.isDirectory target.parent = true ∧
    (∀ m ∈ d.passed target, between.entryAt? m = some .directory) ∧
    between.entryAt? (d.place target) ≠ some .directory ∧ e = between.put (d.place target) (.file content)

namespace Writes

variable {target : Path} {content : Content} {d e : Disk}

theorem place_ne (h : Writes target content d e) : d.place target ≠ [] := by
  obtain ⟨between, _, _, _, hplace, _⟩ := h
  intro hnil
  rw [hnil] at hplace
  exact hplace rfl

theorem entry (h : Writes target content d e) (l : Location) :
    (l = d.place target ∧ e.entryAt? l = some (.file content) ∧ d.entryAt? l ≠ some .directory) ∨
      (l ≠ d.place target ∧ (e.entryAt? l = d.entryAt? l ∨
        (d.entryAt? l = none ∧ e.entryAt? l = some .directory ∧ l ∈ d.visited target.parent))) := by
  have hne := h.place_ne
  obtain ⟨between, hmakes, _, _, hplace, rfl⟩ := h
  rw [entryAt?_put between hne]
  by_cases hl : l = d.place target
  · subst hl
    refine .inl ⟨rfl, if_pos rfl, ?_⟩
    intro hdirectory
    exact hplace (hmakes.grows.directory hdirectory)
  · rw [if_neg hl]
    exact .inr ⟨hl, hmakes.entry l⟩

theorem grows (h : Writes target content d e) : d.Grows e where
  workingDirectory := by
    obtain ⟨between, hmakes, _, _, _, rfl⟩ := h
    exact hmakes.workingDirectory
  directory {l} hl := by
    rcases h.entry l with ⟨_, _, hnot⟩ | ⟨_, hsame | ⟨hnone, _, _⟩⟩
    · exact absurd hl hnot
    · rw [hsame, hl]
    · rw [hnone] at hl
      cases hl
  file {l _} hl := by
    rcases h.entry l with ⟨_, hput, _⟩ | ⟨_, hsame | ⟨hnone, _, _⟩⟩
    · exact ⟨_, hput⟩
    · exact ⟨_, hsame.trans hl⟩
    · rw [hnone] at hl
      cases hl

theorem file_at (h : Writes target content d e) : e.entryAt? (d.place target) = some (.file content) := by
  rcases h.entry (d.place target) with ⟨_, hput, _⟩ | ⟨hne, _⟩
  · exact hput
  · exact absurd rfl hne

/-- What was written is found where the path leads. -/
theorem readContent (h : Writes target content d e) : e.readContent target = .ok content := by
  rw [readContent_eq_ok_iff, h.grows.passed_eq, h.grows.place_eq]
  refine ⟨fun m hm => ?_, h.file_at⟩
  have hne := h.place_ne
  obtain ⟨between, _, _, hpassed, hplace, rfl⟩ := h
  have hother : m ≠ d.place target := fun heq => hplace (heq ▸ hpassed m hm)
  rw [entryAt?_put between hne, if_neg hother, hpassed m hm]

/-- Files elsewhere are as they were. -/
theorem file_of_ne (h : Writes target content d e) {l : Location} {c : Content} (hl : l ≠ d.place target) :
    e.entryAt? l = some (.file c) ↔ d.entryAt? l = some (.file c) := by
  rcases h.entry l with ⟨heq, _, _⟩ | ⟨_, hsame | ⟨hnone, hmade, _⟩⟩
  · exact absurd heq hl
  · rw [hsame]
  · simp [hnone, hmade]

end Writes

/-- The last check before a file is put in a place: it is there to be written, and no directory. -/
theorem put_checked_eq_ok {d e : Disk} {p : Path} {entry : Entry}
    (h : (do
      let location ← d.locate p
      match d.entryAt? location with
      | some .directory => throw .isDirectory
      | _ => return d.put location entry : Except DiskError Disk) = .ok e) :
    (∀ m ∈ d.passed p, d.entryAt? m = some .directory) ∧ d.entryAt? (d.place p) ≠ some .directory ∧
      e = d.put (d.place p) entry := by
  cases hlocate : d.locate p with
  | error error =>
      rw [hlocate] at h
      cases h
  | ok there =>
      obtain ⟨rfl, hpassed⟩ := (d.locate_eq_ok_iff p there).mp hlocate
      rw [hlocate] at h
      change (match d.entryAt? (d.place p) with
        | some .directory => Except.error DiskError.isDirectory
        | _ => Except.ok (d.put (d.place p) entry)) = .ok e at h
      split at h
      · cases h
      · next hnot =>
          cases h
          exact ⟨hpassed, hnot, rfl⟩

theorem put_checked {d : Disk} {p : Path} (entry : Entry) (hpassed : ∀ m ∈ d.passed p, d.entryAt? m = some .directory)
    (hplace : d.entryAt? (d.place p) ≠ some .directory) :
    (do
      let location ← d.locate p
      match d.entryAt? location with
      | some .directory => throw .isDirectory
      | _ => return d.put location entry : Except DiskError Disk) = .ok (d.put (d.place p) entry) := by
  rw [(d.locate_eq_ok_iff p (d.place p)).mpr ⟨rfl, hpassed⟩]
  change (match d.entryAt? (d.place p) with
    | some .directory => Except.error DiskError.isDirectory
    | _ => Except.ok (d.put (d.place p) entry)) = _
  split
  · next h => exact absurd h hplace
  · rfl

theorem replaceFile_eq_ok_iff (d e : Disk) (p : Path) (content : Content) : d.replaceFile p content = .ok e ↔
    (p.parts ≠ [] ∧ p.name ≠ "..") ∧ (∀ m ∈ d.passed p, d.entryAt? m = some .directory) ∧
      d.entryAt? (d.place p) ≠ some .directory ∧ e = d.put (d.place p) (.file content) := by
  unfold replaceFile
  by_cases hbusy : (p.parts.isEmpty || p.name == "..") = true
  · rw [if_pos hbusy]
    constructor
    · intro h
      cases h
    · rintro ⟨⟨hparts, hname⟩, _⟩
      simp [hparts, hname] at hbusy
  · rw [if_neg hbusy]
    have hfree : p.parts ≠ [] ∧ p.name ≠ ".." := by simpa using hbusy
    constructor
    · intro h
      exact ⟨hfree, put_checked_eq_ok h⟩
    · rintro ⟨_, hpassed, hplace, rfl⟩
      exact put_checked (.file content) hpassed hplace

theorem copied_eq_ok_iff (d e : Disk) (source target : Path) : d.copied source target = .ok e ↔
    d.areSame source target = false ∧ ∃ content, d.readContent source = .ok content ∧
      (∀ m ∈ d.passed target, d.entryAt? m = some .directory) ∧ d.entryAt? (d.place target) ≠ some .directory ∧
      e = d.put (d.place target) (.file content) := by
  unfold copied
  by_cases hsame : d.areSame source target = true
  · rw [if_pos hsame]
    constructor
    · intro h
      cases h
    · rintro ⟨hnot, _⟩
      rw [hsame] at hnot
      cases hnot
  · rw [if_neg hsame]
    rw [Bool.not_eq_true] at hsame
    cases hread : d.readContent source with
    | error error =>
        constructor
        · intro h
          cases h
        · rintro ⟨_, content, hcontent, _⟩
          cases hcontent
    | ok content =>
        constructor
        · intro h
          exact ⟨hsame, content, rfl, put_checked_eq_ok h⟩
        · rintro ⟨_, found, hfound, hpassed, hplace, rfl⟩
          cases hfound
          exact put_checked (.file content) hpassed hplace

/-- The outcome of writing: a file in its place, or no more than directories above it. -/
inductive Outcome (target : Path) (d : Disk) : Except DiskError Unit × Disk → Prop
  | written (content : Content) {e : Disk} (h : Writes target content d e) : Outcome target d (.ok (), e)
  | failed (error : DiskError) {e : Disk} (h : Makes (d.visited target.parent) d e) :
      Outcome target d (.error error, e)

/-- A file that is put in the place of a path once the directories above it are there is written. -/
theorem Ensures.writes {target : Path} {d between : Disk} (h : Ensures target.parent d (.ok (), between))
    (hpassed : ∀ m ∈ between.passed target, between.entryAt? m = some .directory)
    (hplace : between.entryAt? (between.place target) ≠ some .directory) (content : Content) :
    Writes target content d (between.put (between.place target) (.file content)) := by
  have hgrows := h.makes.grows
  rw [hgrows.passed_eq] at hpassed
  rw [hgrows.place_eq] at hplace ⊢
  exact ⟨between, h.makes, h.isDirectory rfl, hpassed, hplace, rfl⟩

theorem writeText_outcome (d : Disk) (p : Path) (s : String) : Outcome p d (d.writeText p s) := by
  have hensures := d.ensureDirectory_ensures p.parent
  unfold writeText
  cases hensure : d.ensureDirectory p.parent with
  | mk result between =>
      rw [hensure] at hensures
      cases result with
      | error error => exact .failed error hensures.makes
      | ok =>
          dsimp only
          cases hreplace : between.replaceFile p (.text s) with
          | error error => exact .failed error hensures.makes
          | ok e =>
              obtain ⟨_, hpassed, hplace, rfl⟩ := (between.replaceFile_eq_ok_iff e p _).mp hreplace
              exact .written (.text s) (hensures.writes hpassed hplace _)

theorem writeText_writes {d e : Disk} {p : Path} {s : String} (h : d.writeText p s = (.ok (), e)) :
    Writes p (.text s) d e := by
  have hensures := d.ensureDirectory_ensures p.parent
  unfold writeText at h
  cases hensure : d.ensureDirectory p.parent with
  | mk result between =>
      rw [hensure] at hensures h
      cases result with
      | error error => cases h
      | ok =>
          dsimp only at h
          cases hreplace : between.replaceFile p (.text s) with
          | error error =>
              rw [hreplace] at h
              cases h
          | ok f =>
              rw [hreplace] at h
              cases h
              obtain ⟨_, hpassed, hplace, rfl⟩ := (between.replaceFile_eq_ok_iff _ p _).mp hreplace
              exact hensures.writes hpassed hplace _

theorem copyFile_outcome (d : Disk) (source target : Path) : Outcome target d (d.copyFile source target) := by
  have hensures := d.ensureDirectory_ensures target.parent
  unfold copyFile
  cases hensure : d.ensureDirectory target.parent with
  | mk result between =>
      rw [hensure] at hensures
      cases result with
      | error error => exact .failed error hensures.makes
      | ok =>
          dsimp only
          cases hcopied : between.copied source target with
          | error error => exact .failed error hensures.makes
          | ok e =>
              obtain ⟨_, content, _, hpassed, hplace, rfl⟩ := (between.copied_eq_ok_iff e source target).mp hcopied
              exact .written content (hensures.writes hpassed hplace _)

end Disk

end WorkflowForge
