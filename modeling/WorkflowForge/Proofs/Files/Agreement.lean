import WorkflowForge.Proofs.Files.Writing

/-!
Two disks side by side, one of which has all that the other has and perhaps more. What is written to the larger one can
be written to the smaller one as well, and they stay side by side. A path that is looked up on both names the same file
with the same content, if no file was put in its place and it does not leave by a double dot a directory that was made
in the meantime: on the larger disk such a path can be walked where on the smaller one it cannot. Writing fails for what
is in its way, never for what a file holds.
-/

namespace WorkflowForge

/-- The locations that steps leave by a double dot. -/
def Path.leftUp : Location → List String → List Location
  | _, [] => []
  | here, step :: steps =>
    if step == ".." then here :: leftUp here.dropLast steps else leftUp (here ++ [step]) steps

namespace Disk

/-- The locations that a path leaves by a double dot. -/
def leftUp (d : Disk) (p : Path) : List Location := Path.leftUp (d.start p) p.parts

/-- Whatever is there is in a directory, and so is the working directory, which is one itself. -/
structure WellFormed (d : Disk) : Prop where
  settled : d.Settled
  parent (l : Location) (name : String) (h : (d.entryAt? (l ++ [name])).isSome = true) : d.entryAt? l = some .directory

namespace WellFormed

variable {d : Disk}

theorem dropLast (hd : d.WellFormed) {l : Location} (h : (d.entryAt? l).isSome = true) :
    d.entryAt? l.dropLast = some .directory := by
  rcases List.eq_nil_or_concat l with rfl | ⟨init, last, rfl⟩
  · rfl
  · rw [List.concat_eq_append] at h ⊢
    rw [List.dropLast_concat]
    exact hd.parent init last h

theorem start (hd : d.WellFormed) (p : Path) : d.entryAt? (d.start p) = some .directory := by
  rw [Disk.start]
  split
  · rfl
  · exact hd.settled

/-- Where a path can be walked, its place is in a directory. -/
theorem dropLast_place (hd : d.WellFormed) {p : Path} (hpassed : ∀ m ∈ d.passed p, d.entryAt? m = some .directory) :
    d.entryAt? (d.place p).dropLast = some .directory := by
  obtain ⟨slashes, parts⟩ := p
  rcases List.eq_nil_or_concat parts with rfl | ⟨above, last, rfl⟩
  · apply hd.dropLast
    have hstart := hd.start ⟨slashes, []⟩
    exact Option.isSome_iff_exists.mpr ⟨_, hstart⟩
  · rw [List.concat_eq_append] at hpassed ⊢
    rw [passed_below] at hpassed
    have hhere := hpassed (d.place ⟨slashes, above⟩) (List.mem_append_right _ (List.mem_singleton_self _))
    have hplace : d.place ⟨slashes, above ++ [last]⟩ = Path.follow (d.place ⟨slashes, above⟩) [last] :=
      Path.follow_append _ above [last]
    rw [hplace]
    by_cases hup : last = ".."
    · subst hup
      have hparent := hd.dropLast (Option.isSome_iff_exists.mpr ⟨_, hhere⟩)
      exact hd.dropLast (Option.isSome_iff_exists.mpr ⟨_, hparent⟩)
    · rw [Path.follow_name hup, Path.follow, List.dropLast_concat]
      exact hhere

/-- It is enough to look at the entries. -/
theorem of_entries (hsettled : d.Settled) (h : ∀ x ∈ d.entries, d.entryAt? x.1.dropLast = some .directory) :
    d.WellFormed where
  settled := hsettled
  parent l name hsome := by
    obtain ⟨e, he⟩ := Option.isSome_iff_exists.mp hsome
    rw [entryAt?] at he
    · obtain ⟨before, after, heq, _⟩ := List.lookup_eq_some_iff.mp he
      have hmem : (l ++ [name], e) ∈ d.entries := by
        rw [heq]
        exact List.mem_append_right _ List.mem_cons_self
      have hparent := h (l ++ [name], e) hmem
      rwa [List.dropLast_concat] at hparent
    · simp

theorem put (hd : d.WellFormed) {l : Location} {e : Entry} (hne : l ≠ [])
    (hparent : d.entryAt? l.dropLast = some .directory) (hkeep : d.entryAt? l = some .directory → e = .directory) :
    (d.put l e).WellFormed where
  settled := by
    rw [Settled, entryAt?_put d hne]
    split
    · next heq =>
        have hdirectory := hd.settled
        rw [Settled, show d.workingDirectory = l from heq] at hdirectory
        rw [hkeep hdirectory]
    · exact hd.settled
  parent m name h := by
    rw [entryAt?_put d hne] at h ⊢
    have hm : d.entryAt? m = some .directory := by
      split at h
      · next heq =>
          rw [← heq, List.dropLast_concat] at hparent
          exact hparent
      · exact hd.parent m name h
    split
    · next heq =>
        rw [heq] at hm
        rw [hkeep hm]
    · exact hm

theorem makeOne (hd : d.WellFormed) {p : Path} {e : Disk} (h : d.makeOne p = .ok e) : e.WellFormed := by
  obtain ⟨hpassed, hnone, rfl⟩ := makeOne_eq_ok h
  refine hd.put ?_ (hd.dropLast_place hpassed) fun _ => rfl
  intro hnil
  rw [hnil] at hnone
  cases hnone

theorem ensureOne (hd : d.WellFormed) (p : Path) : (d.ensureOne p).2.WellFormed := by
  unfold Disk.ensureOne
  split
  · next e h => exact hd.makeOne h
  · split
    · exact hd
    · exact hd

theorem ensureAbove (hd : d.WellFormed) (slashes : Nat) (reversed : List String) :
    (Disk.ensureAbove slashes reversed d).2.WellFormed := by
  induction reversed with
  | nil => exact hd.ensureOne _
  | cons last above ih =>
      rw [Disk.ensureAbove]
      split
      · split
        · next e he =>
            rw [he] at ih
            exact ih.ensureOne _
        · exact ih
      · exact hd.ensureOne _

theorem ensureDirectory (hd : d.WellFormed) (p : Path) : (d.ensureDirectory p).2.WellFormed :=
  hd.ensureAbove p.slashes p.parts.reverse

/-- A file that is put where there is no directory. -/
theorem putFile (hd : d.WellFormed) {p : Path} (hpassed : ∀ m ∈ d.passed p, d.entryAt? m = some .directory)
    (hplace : d.entryAt? (d.place p) ≠ some .directory) (content : Content) :
    (d.put (d.place p) (.file content)).WellFormed := by
  refine hd.put ?_ (hd.dropLast_place hpassed) fun hdirectory => absurd hdirectory hplace
  intro hnil
  rw [hnil] at hplace
  exact hplace rfl

theorem writeText (hd : d.WellFormed) (p : Path) (s : String) : (d.writeText p s).2.WellFormed := by
  have hmade := hd.ensureDirectory p.parent
  unfold Disk.writeText
  split
  · next h => rwa [h] at hmade
  · next between h =>
      rw [h] at hmade
      split
      · next hreplace =>
          obtain ⟨_, hpassed, hplace, rfl⟩ := (between.replaceFile_eq_ok_iff _ p _).mp hreplace
          exact hmade.putFile hpassed hplace _
      · exact hmade

theorem copyFile (hd : d.WellFormed) (source target : Path) : (d.copyFile source target).2.WellFormed := by
  have hmade := hd.ensureDirectory target.parent
  unfold Disk.copyFile
  split
  · next h => rwa [h] at hmade
  · next between h =>
      rw [h] at hmade
      split
      · next hcopied =>
          obtain ⟨_, content, _, hpassed, hplace, rfl⟩ := (between.copied_eq_ok_iff _ source target).mp hcopied
          exact hmade.putFile hpassed hplace _
      · exact hmade

end WellFormed

theorem makeOne_eq_error {d : Disk} {p : Path} {e : DiskError} (h : d.makeOne p = .error e) :
    (e = .notFound ∧ ∃ m ∈ d.passed p, d.entryAt? m = none) ∨
      (e = .notDirectory ∧ ∃ m ∈ d.passed p, ∃ content, d.entryAt? m = some (.file content)) ∨
      (e = .alreadyThere ∧ (∀ m ∈ d.passed p, d.entryAt? m = some .directory) ∧
        (d.entryAt? (d.place p)).isSome = true) := by
  unfold makeOne at h
  cases hlocate : d.locate p with
  | error error =>
      rw [hlocate] at h
      cases h
      rcases walk_eq_error hlocate with hnone | hfile
      · exact .inl hnone
      · exact .inr (.inl hfile)
  | ok there =>
      obtain ⟨rfl, hpassed⟩ := (d.locate_eq_ok_iff p there).mp hlocate
      rw [hlocate] at h
      dsimp only [bind, Except.bind] at h
      split at h
      · next entry hentry =>
          cases h
          exact .inr (.inr ⟨rfl, hpassed, by rw [hentry]; rfl⟩)
      · cases h

theorem ensureOne_ok {d : Disk} {p : Path} (hpassed : ∀ m ∈ d.passed p, d.entryAt? m = some .directory)
    (hplace : ∀ content, d.entryAt? (d.place p) ≠ some (.file content)) : (d.ensureOne p).1 = .ok () := by
  unfold ensureOne
  split
  · rfl
  · next e he =>
      have hdirectory : d.isDirectory p = true := by
        rw [isDirectory_iff, visited, List.forall_mem_append, List.forall_mem_singleton]
        refine ⟨hpassed, ?_⟩
        rcases makeOne_eq_error he with ⟨_, m, hm, hnone⟩ | ⟨_, m, hm, content, hfile⟩ | ⟨_, _, hsome⟩
        · rw [hpassed m hm] at hnone
          cases hnone
        · rw [hpassed m hm] at hfile
          cases hfile
        · obtain ⟨entry, hentry⟩ := Option.isSome_iff_exists.mp hsome
          cases entry with
          | directory => exact hentry
          | file content => exact absurd hentry (hplace content)
      rw [if_pos hdirectory]

theorem ensureAbove_ok {d : Disk} (hd : d.WellFormed) {slashes : Nat} {reversed : List String}
    (hfree : ∀ m ∈ d.visited ⟨slashes, reversed.reverse⟩, ∀ content, d.entryAt? m ≠ some (.file content)) :
    (ensureAbove slashes reversed d).1 = .ok () := by
  induction reversed with
  | nil =>
      apply ensureOne_ok
      · intro m hm
        cases hm
      · intro content hfile
        rw [show d.place ⟨slashes, []⟩ = d.start ⟨slashes, []⟩ from rfl, hd.start] at hfile
        cases hfile
  | cons last above ih =>
      rw [List.reverse_cons] at hfree
      have habove : ∀ m ∈ d.visited ⟨slashes, above.reverse⟩, ∀ content, d.entryAt? m ≠ some (.file content) := by
        intro m hm
        apply hfree
        rw [visited, passed_below]
        exact List.mem_append_left _ hm
      have hplace := hfree (d.place ⟨slashes, above.reverse ++ [last]⟩)
        (List.mem_append_right _ (List.mem_singleton_self _))
      rw [ensureAbove]
      split
      · have hensures := ensureAbove_ensures slashes above d
        split
        · next e he =>
            rw [he] at hensures
            apply ensureOne_ok
            · have hdirectory := (isDirectory_iff _ _).mp (hensures.isDirectory rfl)
              rwa [List.reverse_cons, passed_below]
            · intro content hfile
              rw [List.reverse_cons, hensures.makes.grows.place_eq, hensures.makes.file_iff] at hfile
              exact hplace content hfile
        · next hfailed => exact (hfailed _ (Prod.ext (ih habove) rfl)).elim
      · next hother =>
          rw [List.reverse_cons] at hother ⊢
          cases hmake : d.makeOne ⟨slashes, above.reverse ++ [last]⟩ with
          | ok e =>
              rw [ensureOne, hmake]
          | error e =>
              apply ensureOne_ok _ hplace
              rcases makeOne_eq_error hmake with ⟨rfl, _⟩ | ⟨_, m, hm, content, hfile⟩ | ⟨_, hpassed, _⟩
              · exact absurd hmake hother
              · exact absurd hfile (hfree m (List.mem_append_left _ hm) content)
              · exact hpassed

/-- A directory can be made where no file is in the way. -/
theorem ensureDirectory_ok {d : Disk} (hd : d.WellFormed) {p : Path}
    (hfree : ∀ m ∈ d.visited p, ∀ content, d.entryAt? m ≠ some (.file content)) :
    (d.ensureDirectory p).1 = .ok () := by
  apply ensureAbove_ok hd
  rwa [List.reverse_reverse]

/-- Steps that can be walked on a later disk to something that was there before can be walked on the earlier one, unless
they leave by a double dot a directory that was made in between. -/
theorem passed_of_isSome {d e : Disk} (hd : d.WellFormed) {here : Location} {steps : List String}
    (hpassed : ∀ m ∈ Path.passed here steps, e.entryAt? m = some .directory)
    (hup : ∀ m ∈ Path.leftUp here steps, e.entryAt? m = some .directory → d.entryAt? m = some .directory)
    (hthere : (d.entryAt? (Path.follow here steps)).isSome = true) :
    (d.entryAt? here).isSome = true ∧ ∀ m ∈ Path.passed here steps, d.entryAt? m = some .directory := by
  induction steps generalizing here with
  | nil => exact ⟨hthere, by simp [Path.passed]⟩
  | cons step steps ih =>
      rw [Path.passed, List.forall_mem_cons] at hpassed ⊢
      rw [Path.follow_cons] at hthere
      rw [Path.leftUp] at hup
      by_cases hstep : (step == "..") = true
      · rw [if_pos hstep] at hpassed hup hthere ⊢
        rw [List.forall_mem_cons] at hup
        have hhere := hup.1 hpassed.1
        exact ⟨Option.isSome_iff_exists.mpr ⟨_, hhere⟩, hhere, (ih hpassed.2 hup.2 hthere).2⟩
      · rw [if_neg hstep] at hpassed hup hthere ⊢
        obtain ⟨hnext, hrest⟩ := ih hpassed.2 hup hthere
        have hhere := hd.parent here step hnext
        exact ⟨Option.isSome_iff_exists.mpr ⟨_, hhere⟩, hhere, hrest⟩

/-- What a path that is undisturbed reads: the same on a later disk as on the earlier one. -/
theorem readContent_undisturbed {d e : Disk} (hd : d.WellFormed) (hgrows : d.Grows e) {p : Path}
    (hfile : ∀ content, e.entryAt? (d.place p) = some (.file content) → d.entryAt? (d.place p) = some (.file content))
    (hup : ∀ m ∈ d.leftUp p, e.entryAt? m = some .directory → d.entryAt? m = some .directory) (content : Content) :
    e.readContent p = .ok content ↔ d.readContent p = .ok content := by
  rw [readContent_eq_ok_iff, readContent_eq_ok_iff, hgrows.passed_eq, hgrows.place_eq]
  constructor
  · rintro ⟨hpassed, hentry⟩
    have hbefore := hfile content hentry
    exact ⟨(passed_of_isSome hd hpassed hup (Option.isSome_iff_exists.mpr ⟨_, hbefore⟩)).2, hbefore⟩
  · rintro ⟨hpassed, hentry⟩
    refine ⟨fun m hm => hgrows.directory (hpassed m hm), ?_⟩
    obtain ⟨later, hlater⟩ := hgrows.file hentry
    have hsame := hfile later hlater
    rw [hentry] at hsame
    cases hsame
    exact hlater

/-- Making directories changes no file. -/
theorem Makes.readContent {locations : List Location} {d e : Disk} (h : Makes locations d e) {p : Path}
    {content : Content} (hread : d.readContent p = .ok content) : e.readContent p = .ok content := by
  rw [readContent_eq_ok_iff] at hread ⊢
  rw [h.grows.passed_eq, h.grows.place_eq]
  exact ⟨fun m hm => h.grows.directory (hread.1 m hm), (h.file_iff _ _).mpr hread.2⟩

/-- Makes a directory where there is none. -/
def prepare (d : Disk) (p : Path) : Except DiskError Unit × Disk :=
  if d.isDirectory p then (.ok (), d) else d.ensureDirectory p

theorem readText_congr {d e : Disk} {p : Path} (h : d.readContent p = e.readContent p) :
    d.readText p = e.readText p := by
  rw [readText, readText, h]

theorem passed_of_parent (d : Disk) {p : Path} (h : p.parts ≠ []) : d.passed p = d.visited p.parent := by
  have hparts : p = ⟨p.slashes, p.parts.dropLast ++ [p.parts.getLast h]⟩ := by
    rw [List.dropLast_append_getLast]
  have hbelow := d.passed_below p.slashes p.parts.dropLast (p.parts.getLast h)
  rw [← hparts] at hbelow
  exact hbelow

theorem areSame_eq_true_iff (d : Disk) (p q : Path) : d.areSame p q = true ↔
    (∀ m ∈ d.passed p, d.entryAt? m = some .directory) ∧ (∀ m ∈ d.passed q, d.entryAt? m = some .directory) ∧
      d.place p = d.place q ∧ (d.entryAt? (d.place p)).isSome = true := by
  have hlocate (r : Path) (h : ∀ m ∈ d.passed r, d.entryAt? m = some .directory) : d.locate r = .ok (d.place r) :=
    (d.locate_eq_ok_iff r _).mpr ⟨rfl, h⟩
  constructor
  · intro h
    unfold areSame at h
    split at h
    · next l m hl hm =>
        obtain ⟨rfl, hpassed⟩ := (d.locate_eq_ok_iff p l).mp hl
        obtain ⟨rfl, hpassed'⟩ := (d.locate_eq_ok_iff q m).mp hm
        rw [Bool.and_eq_true, beq_iff_eq] at h
        exact ⟨hpassed, hpassed', h.1, h.2⟩
    · cases h
  · rintro ⟨hpassed, hpassed', hplace, hsome⟩
    unfold areSame
    rw [hlocate p hpassed, hlocate q hpassed']
    dsimp only
    rw [Bool.and_eq_true, beq_iff_eq]
    exact ⟨hplace, hsome⟩

/-- Two disks side by side that come from one: the first has all that the second has, and on both a file is as it was
unless it was put in one of the given places. -/
structure Coupled (start : Disk) (written : Location → Prop) (d e : Disk) : Prop where
  larger : d.WellFormed
  smaller : e.WellFormed
  grows : start.Grows e
  fits : e.Grows d
  larger_file (l : Location) (content : Content) (h : d.entryAt? l = some (.file content)) :
    start.entryAt? l = some (.file content) ∨ written l
  smaller_file (l : Location) (content : Content) (h : e.entryAt? l = some (.file content)) :
    start.entryAt? l = some (.file content) ∨ written l

namespace Coupled

variable {start d e f : Disk} {written : Location → Prop}

/-- The larger disk gets directories. -/
theorem makes (h : Coupled start written d e) {locations : List Location} (hmakes : Makes locations d f)
    (hf : f.WellFormed) : Coupled start written f e where
  larger := hf
  smaller := h.smaller
  grows := h.grows
  fits := h.fits.trans hmakes.grows
  larger_file l content hl := h.larger_file l content ((hmakes.file_iff l content).mp hl)
  smaller_file := h.smaller_file

/-- The smaller disk gets directories that the larger one has. -/
theorem ensureDirectory (h : Coupled start written d e) {p : Path} (hp : d.isDirectory p = true) :
    ∃ f, e.ensureDirectory p = (.ok (), f) ∧ f.isDirectory p = true ∧ Makes (e.visited p) e f ∧
      Coupled start written d f := by
  have hvisited := (isDirectory_iff d p).mp hp
  rw [h.fits.visited_eq] at hvisited
  have hok : (e.ensureDirectory p).1 = .ok () := by
    apply ensureDirectory_ok h.smaller
    intro m hm content hfile
    obtain ⟨later, hlater⟩ := h.fits.file hfile
    rw [hvisited m hm] at hlater
    cases hlater
  have hensures := e.ensureDirectory_ensures p
  have hmakes := hensures.makes
  refine ⟨(e.ensureDirectory p).2, Prod.ext hok rfl, hensures.isDirectory hok, hmakes, ?_⟩
  refine ⟨h.larger, h.smaller.ensureDirectory p, h.grows.trans hmakes.grows, ?_, h.larger_file, ?_⟩
  · refine ⟨h.fits.workingDirectory.trans hmakes.workingDirectory.symm, ?_, ?_⟩
    · intro l hl
      rcases hmakes.entry l with hsame | ⟨_, _, hmem⟩
      · exact h.fits.directory (hsame.symm.trans hl)
      · exact hvisited l hmem
    · intro l content hl
      exact h.fits.file ((hmakes.file_iff l content).mp hl)
  · intro l content hl
    exact h.smaller_file l content ((hmakes.file_iff l content).mp hl)

/-- Both disks get a directory, if they do not have it. -/
theorem prepare (h : Coupled start written d e) {p : Path} (hrun : d.prepare p = (.ok (), f)) :
    ∃ f', e.prepare p = (.ok (), f') ∧ Coupled start written f f' := by
  have hlarger : f.isDirectory p = true ∧ Coupled start written f e := by
    unfold Disk.prepare at hrun
    split at hrun
    · next hdirectory =>
        cases hrun
        exact ⟨hdirectory, h⟩
    · have hensures := d.ensureDirectory_ensures p
      have hwell := h.larger.ensureDirectory p
      rw [hrun] at hensures hwell
      exact ⟨hensures.isDirectory rfl, h.makes hensures.makes hwell⟩
  unfold Disk.prepare
  split
  · exact ⟨e, rfl, hlarger.2⟩
  · obtain ⟨f', hmade, _, _, hcoupled⟩ := hlarger.2.ensureDirectory hlarger.1
    exact ⟨f', hmade, hcoupled⟩

/-- A path that leads to none of the places written to, and leaves no new directory by a double dot, reads the same. -/
theorem readContent_iff (h : Coupled start written d e) (hstart : start.WellFormed) {p : Path}
    (hfree : ¬ written (start.place p))
    (hup : ∀ m ∈ start.leftUp p, d.entryAt? m = some .directory → start.entryAt? m = some .directory)
    (content : Content) : d.readContent p = .ok content ↔ e.readContent p = .ok content := by
  have hlarger := readContent_undisturbed hstart (h.grows.trans h.fits)
    (fun c hc => (h.larger_file _ c hc).resolve_right hfree) hup content
  have hsmaller := readContent_undisturbed hstart h.grows
    (fun c hc => (h.smaller_file _ c hc).resolve_right hfree) (fun m hm he => hup m hm (h.fits.directory he)) content
  exact hlarger.trans hsmaller.symm

/-- Both disks get a file in one place. -/
theorem put (h : Coupled start written d e) {p : Path} (hwritten : written (start.place p))
    (hlarger : ∀ m ∈ d.passed p, d.entryAt? m = some .directory) (hplace : d.entryAt? (d.place p) ≠ some .directory)
    (hsmaller : ∀ m ∈ e.passed p, e.entryAt? m = some .directory) (content : Content) :
    Coupled start written (d.put (d.place p) (.file content)) (e.put (e.place p) (.file content)) := by
  have hne : d.place p ≠ [] := by
    intro hnil
    rw [hnil] at hplace
    exact hplace rfl
  have hsame : d.place p = e.place p := h.fits.place_eq p
  have hstart : d.place p = start.place p := hsame.trans (h.grows.place_eq p)
  have hplace' : e.entryAt? (e.place p) ≠ some .directory := by
    intro hdirectory
    rw [hsame] at hplace
    exact hplace (h.fits.directory hdirectory)
  have hne' : e.place p ≠ [] := by rwa [← hsame]
  have hfile (x : Disk) (hx : x.place p = start.place p) (hxne : x.place p ≠ [])
      (hfiles : ∀ l c, x.entryAt? l = some (.file c) → start.entryAt? l = some (.file c) ∨ written l) (l : Location)
      (c : Content) (hl : (x.put (x.place p) (.file content)).entryAt? l = some (.file c)) :
      start.entryAt? l = some (.file c) ∨ written l := by
    rw [entryAt?_put x hxne] at hl
    split at hl
    · next heq =>
        right
        rw [heq, hx]
        exact hwritten
    · exact hfiles l c hl
  refine ⟨?_, ?_, ?_, ?_, hfile d hstart hne h.larger_file, hfile e (hsame.symm.trans hstart) hne' h.smaller_file⟩
  · exact h.larger.put hne (h.larger.dropLast_place hlarger) fun hd => absurd hd hplace
  · exact h.smaller.put hne' (h.smaller.dropLast_place hsmaller) fun hd => absurd hd hplace'
  · refine ⟨h.grows.workingDirectory, ?_, ?_⟩
    · intro l hl
      rw [entryAt?_put e hne']
      split
      · next heq =>
          rw [heq] at hl
          exact absurd (h.grows.directory hl) hplace'
      · exact h.grows.directory hl
    · intro l c hl
      rw [entryAt?_put e hne']
      split
      · exact ⟨content, rfl⟩
      · exact h.grows.file hl
  · refine ⟨h.fits.workingDirectory, ?_, ?_⟩
    · intro l hl
      rw [entryAt?_put e hne'] at hl
      rw [entryAt?_put d hne, hsame]
      split at hl
      · cases hl
      · next hother =>
          rw [if_neg hother]
          exact h.fits.directory hl
    · intro l c hl
      rw [entryAt?_put e hne'] at hl
      rw [entryAt?_put d hne, hsame]
      split at hl
      · next heq => exact ⟨content, if_pos heq⟩
      · next hother =>
          rw [if_neg hother]
          exact h.fits.file hl

theorem writeText (h : Coupled start written d e) {p : Path} {text : String} (hwritten : written (start.place p))
    (hrun : d.writeText p text = (.ok (), f)) :
    ∃ f', e.writeText p text = (.ok (), f') ∧ Coupled start written f f' := by
  unfold Disk.writeText at hrun
  have hensures := d.ensureDirectory_ensures p.parent
  have hwell := h.larger.ensureDirectory p.parent
  split at hrun
  · cases hrun
  · next between hbetween =>
      rw [hbetween] at hensures hwell
      split at hrun
      · next after hreplace =>
          cases hrun
          obtain ⟨hfree, hpassed, hplace, rfl⟩ := (between.replaceFile_eq_ok_iff _ _ _).mp hreplace
          obtain ⟨e', hmade, hdirectory, _, hcoupled⟩ :=
            (h.makes hensures.makes hwell).ensureDirectory (hensures.isDirectory rfl)
          have hpassed' : ∀ m ∈ e'.passed p, e'.entryAt? m = some .directory := by
            rw [e'.passed_of_parent hfree.1]
            exact (isDirectory_iff _ _).mp hdirectory
          have hplace' : e'.entryAt? (e'.place p) ≠ some .directory := by
            intro hdirectory
            rw [hcoupled.fits.place_eq] at hplace
            exact hplace (hcoupled.fits.directory hdirectory)
          refine ⟨e'.put (e'.place p) (.file (.text text)), ?_, hcoupled.put hwritten hpassed hplace hpassed' _⟩
          unfold Disk.writeText
          rw [hmade]
          dsimp only
          rw [(e'.replaceFile_eq_ok_iff _ p (.text text)).mpr ⟨hfree, hpassed', hplace', rfl⟩]
      · cases hrun

theorem copyFile (h : Coupled start written d e) {source target : Path} {content : Content}
    (hwritten : written (start.place target)) (hread : d.readContent source = .ok content)
    (hread' : e.readContent source = .ok content) (hrun : d.copyFile source target = (.ok (), f)) :
    ∃ f', e.copyFile source target = (.ok (), f') ∧ Coupled start written f f' := by
  unfold Disk.copyFile at hrun
  have hensures := d.ensureDirectory_ensures target.parent
  have hwell := h.larger.ensureDirectory target.parent
  split at hrun
  · cases hrun
  · next between hbetween =>
      rw [hbetween] at hensures hwell
      split at hrun
      · next after hcopied =>
          cases hrun
          obtain ⟨hother, found, hfound, hpassed, hplace, rfl⟩ := (between.copied_eq_ok_iff _ _ _).mp hcopied
          have hsource := hensures.makes.readContent hread
          rw [hfound] at hsource
          cases hsource
          obtain ⟨e', hmade, hdirectory, hmakes, hcoupled⟩ :=
            (h.makes hensures.makes hwell).ensureDirectory (hensures.isDirectory rfl)
          have hparts : target.parts ≠ [] := by
            intro hnil
            apply hplace
            rw [place, hnil]
            exact hwell.start target
          have hpassed' : ∀ m ∈ e'.passed target, e'.entryAt? m = some .directory := by
            rw [e'.passed_of_parent hparts]
            exact (isDirectory_iff _ _).mp hdirectory
          have hplace' : e'.entryAt? (e'.place target) ≠ some .directory := by
            intro hdirectory
            rw [hcoupled.fits.place_eq] at hplace
            exact hplace (hcoupled.fits.directory hdirectory)
          have hother' : e'.areSame source target = false := by
            by_contra hsame
            rw [Bool.not_eq_false] at hsame
            obtain ⟨_, _, hequal, _⟩ := (e'.areSame_eq_true_iff _ _).mp hsame
            obtain ⟨hsource, hentry⟩ := (between.readContent_eq_ok_iff _ _).mp hfound
            have hclash := (between.areSame_eq_true_iff source target).mpr ⟨hsource, hpassed,
              by rw [hcoupled.fits.place_eq, hcoupled.fits.place_eq, hequal], by rw [hentry]; rfl⟩
            rw [hother] at hclash
            cases hclash
          refine ⟨e'.put (e'.place target) (.file content), ?_, hcoupled.put hwritten hpassed hplace hpassed' _⟩
          unfold Disk.copyFile
          rw [hmade]
          dsimp only
          rw [(e'.copied_eq_ok_iff _ source target).mpr
            ⟨hother', content, hmakes.readContent hread', hpassed', hplace', rfl⟩]
      · cases hrun

end Coupled

section Undecodable

variable {d e : Disk} {p : Path}

theorem locate_ne_undecodable : d.locate p ≠ .error .undecodable := by
  intro h
  rcases walk_eq_error h with ⟨heq, _⟩ | ⟨heq, _⟩
  · cases heq
  · cases heq

theorem makeOne_ne_undecodable : d.makeOne p ≠ .error .undecodable := by
  intro h
  rcases makeOne_eq_error h with ⟨heq, _⟩ | ⟨heq, _⟩ | ⟨heq, _⟩
  · cases heq
  · cases heq
  · cases heq

theorem ensureOne_ne_undecodable : d.ensureOne p ≠ (.error .undecodable, e) := by
  intro h
  unfold ensureOne at h
  split at h
  · cases h
  · next error hmake =>
      split at h
      · cases h
      · cases h
        exact makeOne_ne_undecodable hmake

theorem ensureAbove_ne_undecodable {slashes : Nat} {reversed : List String} :
    ensureAbove slashes reversed d ≠ (.error .undecodable, e) := by
  induction reversed generalizing d with
  | nil => exact ensureOne_ne_undecodable
  | cons last above ih =>
      intro h
      rw [ensureAbove] at h
      split at h
      · split at h
        · exact ensureOne_ne_undecodable h
        · exact ih h
      · exact ensureOne_ne_undecodable h

theorem readContent_ne_undecodable : d.readContent p ≠ .error .undecodable := by
  unfold readContent find
  cases hlocate : d.locate p with
  | error error =>
      intro h
      cases h
      exact locate_ne_undecodable hlocate
  | ok there =>
      dsimp only [bind, Except.bind]
      cases d.entryAt? there with
      | none =>
          intro h
          cases h
      | some entry =>
          cases entry with
          | file content =>
              intro h
              cases h
          | directory =>
              intro h
              cases h

theorem put_checked_ne_undecodable {entry : Entry} :
    (d.locate p >>= fun location => match d.entryAt? location with
      | some .directory => Except.error DiskError.isDirectory
      | _ => Except.ok (d.put location entry)) ≠ .error .undecodable := by
  cases hlocate : d.locate p with
  | error error =>
      intro h
      cases h
      exact locate_ne_undecodable hlocate
  | ok there =>
      change (match d.entryAt? there with
        | some .directory => Except.error DiskError.isDirectory
        | _ => Except.ok (d.put there entry)) ≠ _
      split
      · intro h
        cases h
      · intro h
        cases h

theorem writeText_ne_undecodable {s : String} : d.writeText p s ≠ (.error .undecodable, e) := by
  intro h
  unfold writeText at h
  split at h
  · next error between hensure =>
      cases h
      exact ensureAbove_ne_undecodable hensure
  · next between hensure =>
      split at h
      · cases h
      · next error hreplace =>
          cases h
          unfold replaceFile at hreplace
          split at hreplace
          · cases hreplace
          · exact put_checked_ne_undecodable hreplace

theorem copyFile_ne_undecodable {source : Path} : d.copyFile source p ≠ (.error .undecodable, e) := by
  intro h
  unfold copyFile at h
  split at h
  · next error between hensure =>
      cases h
      exact ensureAbove_ne_undecodable hensure
  · next between hensure =>
      split at h
      · cases h
      · next error hcopied =>
          cases h
          unfold copied at hcopied
          split at hcopied
          · cases hcopied
          · cases hread : e.readContent source with
            | error error =>
                rw [hread] at hcopied
                cases hcopied
                exact readContent_ne_undecodable hread
            | ok content =>
                rw [hread] at hcopied
                exact put_checked_ne_undecodable hcopied

end Undecodable

end Disk

end WorkflowForge
