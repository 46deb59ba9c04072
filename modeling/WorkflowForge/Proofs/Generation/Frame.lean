import WorkflowForge.Proofs.Assembly.Course
import WorkflowForge.Proofs.Generation.Faults

/-!
What a run leaves alone. A file changes only where a document is written or a rendered text is kept for inspection. A
document that nothing is put over later is on the disk with its whole text, and one that is not written leaves the file
at its destination as it was. All of it is said of one attempt first, then of the attempts of a run one after the other;
between two attempts there are at most directories made.
-/

namespace WorkflowForge

open Stage (renderings reached renderings_append reached_append)

namespace Disk

/-- What is in the file at a location, if there is one. -/
def fileAt? (d : Disk) (l : Location) : Option Content :=
  match d.entryAt? l with
  | some (.file content) => some content
  | _ => none

theorem fileAt?_eq_some_iff (d : Disk) (l : Location) (content : Content) :
    d.fileAt? l = some content ↔ d.entryAt? l = some (.file content) := by
  unfold fileAt?
  split
  · next found h => simp [h]
  · next h => simpa using h content

theorem fileAt?_congr {d e : Disk} {l : Location}
    (h : ∀ content, e.entryAt? l = some (.file content) ↔ d.entryAt? l = some (.file content)) :
    e.fileAt? l = d.fileAt? l := by
  apply Option.ext
  intro content
  rw [fileAt?_eq_some_iff, fileAt?_eq_some_iff]
  exact h content

theorem Makes.fileAt?_eq {locations : List Location} {d e : Disk} (h : Makes locations d e) (l : Location) :
    e.fileAt? l = d.fileAt? l :=
  fileAt?_congr (h.file_iff l)

theorem Writes.fileAt?_of_ne {target : Path} {content : Content} {d e : Disk} (h : Writes target content d e)
    {l : Location} (hl : d.place target ≠ l) : e.fileAt? l = d.fileAt? l :=
  fileAt?_congr fun _ => h.file_of_ne (Ne.symm hl)

end Disk

namespace Build

variable {w : Workshop}

/-- Files are as they were except where renderings kept their texts. -/
structure Frames (w : Workshop) (b : Bench) (past : List Rendering) (c : Bench) : Prop where
  grows : b.disk.Grows c.disk
  same : ∀ l, (∀ r ∈ past, ∀ p, r.kept? w = some p → b.disk.place p ≠ l) → c.disk.fileAt? l = b.disk.fileAt? l

theorem Frames.of_same {b c : Bench} (past : List Rendering) (h : c.disk = b.disk) : Frames w b past c where
  grows := by
    rw [h]
    exact .refl _
  same l _ := by rw [h]

theorem Frames.trans {a b c : Bench} {past more : List Rendering} (hab : Frames w a past b)
    (hbc : Frames w b more c) : Frames w a (past ++ more) c where
  grows := hab.grows.trans hbc.grows
  same l h := by
    rw [List.forall_mem_append] at h
    rw [hbc.same l, hab.same l h.1]
    intro r hr p hp
    rw [hab.grows.place_eq]
    exact h.2 r hr p hp

theorem renderJson_frames (w : Workshop) (item : Option Item) (snippet : Snippet) (b : Bench) :
    Frames w b [⟨item, snippet, b⟩] ((renderJson w item snippet true).run b).2 := by
  rw [renderJson_run]
  cases hfile : Snippet.findFile w.templatePaths b.disk snippet.templateFile with
  | none => exact .of_same _ rfl
  | some source =>
      dsimp only
      cases htext : textOf w item snippet source (numbered item b) with
      | error f => exact .of_same _ rfl
      | ok text =>
          dsimp only
          split
          · exact .of_same _ rfl
          · next houtput =>
              have houtcome := keep_outcome (Snippet.isTemplate w.suffixes source) source
                (nextTarget w item snippet source b) text b.disk
              cases hkeep : keep (Snippet.isTemplate w.suffixes source) source (nextTarget w item snippet source b) text
                  b.disk with
              | mk result disk =>
                  rw [hkeep] at houtcome
                  cases houtcome with
                  | failed error hmakes => exact ⟨hmakes.grows, fun l _ => hmakes.fileAt?_eq l⟩
                  | written content hwrites =>
                      have hkept : Rendering.kept? w ⟨item, snippet, b⟩ =
                          some (nextTarget w item snippet source b) := by
                        rw [Rendering.kept?, hfile]
                        dsimp only
                        rw [htext]
                        dsimp only
                        rw [if_neg houtput, hkeep]
                      exact ⟨hwrites.grows, fun l h => hwrites.fileAt?_of_ne (h _ (List.mem_singleton_self _) _ hkept)⟩

/-- A course changes files only where its renderings keep their texts, if no further step changes a file. -/
theorem Course.frames {t : Terms} {α : Type} {x : Build α} {b : Bench} {stages : List Stage}
    {result : Except Fault α × Bench} (h : Course w t x b stages result)
    (hfurther : ∀ (β : Type) (y : Build β) b, t.further β y → (y.run b).2.disk = b.disk) :
    Frames w b (renderings stages) result.2 := by
  rw [← h.reached_eq]
  refine h.along (R := Frames w) (fun b => .of_same _ rfl) Frames.trans ?_ ?_ ?_ (List.prefix_refl _)
  · intro β y c hy
    rcases hy.rendersLike c with hlike | hstep
    · exact .of_same _ hlike.disk
    · exact .of_same _ (hfurther β y c hstep)
  · intro item snippet c
    exact .of_same _ rfl
  · intro item snippet c
    exact renderJson_frames w item snippet c

end Build

namespace Attempt

/-- What comes of the drafting of the document. -/
def drafted (g : Generator) (a : Attempt) : Except Fault (Option (Path × Json)) × Bench :=
  (g.draft a.workshop a.kind).run a.before

/-- A rendering of the attempt keeps its text at a path. -/
def Keeps (g : Generator) (a : Attempt) (p : Path) : Prop :=
  ∃ stages result, Build.Course a.workshop (Generator.draftTerms a.workshop) (g.draft a.workshop a.kind) a.before
    stages result ∧ ∃ r ∈ renderings stages, r.kept? a.workshop = some p

/-- The attempt puts a file at a path: its document, or a text that it keeps. -/
def Puts (g : Generator) (a : Attempt) (p : Path) : Prop := a.written g = some p ∨ a.Keeps g p

/-- The text of a document as it is written. -/
def textOf (g : Generator) (document : Json) : String := document.text (Layout.ofIndent g.jsonIndent)

/-- The ways an attempt can go. -/
inductive Goes (g : Generator) (a : Attempt) : Except Fault (Option Path) × Bench → Prop
  | undrafted {c : Bench} (hdraft : a.drafted g = (.ok none, c)) : Goes g a (.ok none, c)
  | unrendered {e : RenderError} {c : Bench} (hdraft : a.drafted g = (.error (.render e), c)) :
      Goes g a (.ok none,
        Build.recorded ⟨.renderFailed, a.workshop.manager.name, e.message, some e.templateFile⟩ c)
  | stopped {f : Fault} {c : Bench} (hdraft : a.drafted g = (.error f, c)) (hf : ∀ e, f ≠ .render e) :
      Goes g a (.error f, c)
  | written {target : Path} {document : Json} {c d : Bench} (hdraft : a.drafted g = (.ok (some (target, document)), c))
      (hwrite : c.disk.writeText target (textOf g document) = (.ok (), d.disk)) : Goes g a (.ok (some target), d)
  | unwritten {target : Path} {document : Json} {e : DiskError} {c d : Bench}
      (hdraft : a.drafted g = (.ok (some (target, document)), c))
      (hwrite : c.disk.writeText target (textOf g document) = (.error e, d.disk)) : Goes g a (.error (.disk e), d)

theorem goes (g : Generator) (a : Attempt) : a.Goes g (a.outcome g) := by
  have houtcome : a.outcome g = _ := Build.recovering_run (g.buildArtifact a.workshop a.kind) a.before
  rw [Generator.buildArtifact_run] at houtcome
  rw [houtcome]
  cases hdraft : (g.draft a.workshop a.kind).run a.before with
  | mk drafted c =>
      cases drafted with
      | error f =>
          cases f with
          | render e => exact .unrendered hdraft
          | template e => exact .stopped hdraft fun _ h => by cases h
          | disk e => exact .stopped hdraft fun _ h => by cases h
      | ok found =>
          cases found with
          | none => exact .undrafted hdraft
          | some pair =>
              obtain ⟨target, document⟩ := pair
              dsimp only
              rw [Generator.writeDocument_run]
              cases hwrite : c.disk.writeText target (textOf g document) with
              | mk result disk =>
                  change c.disk.writeText target (document.text (Layout.ofIndent g.jsonIndent)) = _ at hwrite
                  rw [hwrite]
                  cases result with
                  | ok => exact .written hdraft hwrite
                  | error e => exact .unwritten hdraft hwrite

variable {g : Generator} {a : Attempt}

/-- An attempt that ends well wrote nothing exactly if there was no document to write. -/
theorem written_eq_none_iff {result : Option Path} (hresult : (a.outcome g).1 = .ok result) :
    a.written g = none ↔ (a.drafted g).1 = .ok none ∨ ∃ e, (a.drafted g).1 = .error (.render e) := by
  have hgoes := a.goes g
  unfold Attempt.written
  generalize a.outcome g = outcome at hgoes hresult
  cases hgoes with
  | undrafted hdraft => simp [hdraft, Except.toOption]
  | unrendered hdraft => simp [hdraft, Except.toOption]
  | stopped hdraft _ => cases hresult
  | written hdraft hwrite => simp [hdraft, Except.toOption]
  | unwritten hdraft hwrite => cases hresult

/-- The draft of an attempt changes files only where the attempt keeps a text. -/
theorem drafted_frame (hregistry : g.registry.BuiltIn) {flow : Workflow}
    (hflow : a.workshop.manager.workflow = some flow) :
    a.before.disk.Grows (a.drafted g).2.disk ∧
      ∀ l, (∀ p, a.Keeps g p → a.before.disk.place p ≠ l) →
        (a.drafted g).2.disk.fileAt? l = a.before.disk.fileAt? l := by
  have hdrafts := Generator.draftTerms_drafts a.workshop
  obtain ⟨stages, hcourse⟩ := (Generator.draft_composed hdrafts hregistry hflow a.kind).exists_course a.before
  have hframes := hcourse.frames fun β y b hy => by
    cases hy with
    | onDocument f => rfl
  refine ⟨hframes.grows, fun l hl => hframes.same l ?_⟩
  intro r hr p hp
  exact hl p ⟨stages, _, hcourse, r, hr, hp⟩

/-- An attempt changes files only where it puts one. -/
theorem outcome_frame (hregistry : g.registry.BuiltIn) {flow : Workflow}
    (hflow : a.workshop.manager.workflow = some flow) :
    a.before.disk.Grows (a.outcome g).2.disk ∧
      ∀ l, (∀ p, a.Puts g p → a.before.disk.place p ≠ l) →
        (a.outcome g).2.disk.fileAt? l = a.before.disk.fileAt? l := by
  obtain ⟨hgrows, hsame⟩ := drafted_frame hregistry hflow
  have hgoes := a.goes g
  have hkept (l : Location) (hl : ∀ p, a.Puts g p → a.before.disk.place p ≠ l) :
      (a.drafted g).2.disk.fileAt? l = a.before.disk.fileAt? l :=
    hsame l fun p hp => hl p (.inr hp)
  cases houtcome : a.outcome g with
  | mk result after =>
      rw [houtcome] at hgoes
      cases hgoes with
      | undrafted hdraft =>
          rw [hdraft] at hgrows hkept
          exact ⟨hgrows, hkept⟩
      | unrendered hdraft =>
          rw [hdraft] at hgrows hkept
          exact ⟨hgrows, hkept⟩
      | stopped hdraft _ =>
          rw [hdraft] at hgrows hkept
          exact ⟨hgrows, hkept⟩
      | written hdraft hwrite =>
          rw [hdraft] at hgrows hkept
          have hwrites := Disk.writeText_writes hwrite
          refine ⟨hgrows.trans hwrites.grows, fun l hl => ?_⟩
          rw [← hkept l hl]
          apply hwrites.fileAt?_of_ne
          rw [hgrows.place_eq]
          apply hl
          left
          rw [Attempt.written, houtcome]
          rfl
      | @unwritten target document _ c _ hdraft hwrite =>
          rw [hdraft] at hgrows hkept
          have hfailed := c.disk.writeText_outcome target (textOf g document)
          rw [hwrite] at hfailed
          cases hfailed with
          | failed _ hmakes => exact ⟨hgrows.trans hmakes.grows, fun l hl => (hmakes.fileAt?_eq l).trans (hkept l hl)⟩

/-- A document that was written is on the disk, with its whole text. -/
theorem fileAt?_of_written (hregistry : g.registry.BuiltIn) {flow : Workflow}
    (hflow : a.workshop.manager.workflow = some flow) {p : Path} (h : a.written g = some p) :
    ∃ document, (a.drafted g).1 = .ok (some (p, document)) ∧
      (a.outcome g).2.disk.fileAt? (a.before.disk.place p) = some (.text (textOf g document)) := by
  obtain ⟨hgrows, _⟩ := drafted_frame hregistry hflow
  have hgoes := a.goes g
  unfold Attempt.written at h
  cases houtcome : a.outcome g with
  | mk result after =>
      rw [houtcome] at hgoes h
      cases hgoes with
      | undrafted hdraft => cases h
      | unrendered hdraft => cases h
      | stopped hdraft _ => cases h
      | written hdraft hwrite =>
          cases h
          rw [hdraft] at hgrows
          refine ⟨_, by rw [hdraft], ?_⟩
          rw [Disk.fileAt?_eq_some_iff, ← hgrows.place_eq]
          exact (Disk.writeText_writes hwrite).file_at
      | unwritten hdraft hwrite => cases h

end Attempt

namespace Generator

variable {g : Generator} {w : Workshop}

section Along

variable {R : Disk → List Attempt → Disk → Prop}

theorem attempts_along (htrans : ∀ {d e f past more}, R d past e → R e more f → R d (past ++ more) f)
    (hmakes : ∀ {locations d e}, Disk.Makes locations d e → R d [] e)
    (hattempt : ∀ a flow, a.workshop.manager.workflow = some flow → R a.before.disk [a] (a.outcome g).2.disk)
    {flow : Workflow} (hflow : w.manager.workflow = some flow) {kinds : List ArtifactKind} {b c : Bench}
    {written : List Path} (hrun : (g.buildArtifacts w kinds).run b = (.ok written, c)) :
    R b.disk (g.attempts w kinds b) c.disk := by
  induction kinds generalizing b written with
  | nil =>
      cases hrun
      exact hmakes (.refl [] _)
  | cons kind rest ih =>
      obtain ⟨first, d, hfirst, hrun⟩ := Build.run_bind_ok hrun
      obtain ⟨others, e, hothers, hrun⟩ := Build.run_bind_ok hrun
      cases hrun
      have hone := hattempt ⟨w, kind, b⟩ flow hflow
      have houtcome : Attempt.outcome g ⟨w, kind, b⟩ = (.ok first, d) := hfirst
      rw [houtcome] at hone
      rw [attempts, hfirst]
      exact htrans hone (ih hothers)

theorem prepareDirectory_makes (g : Generator) (b : Bench) :
    ∃ locations, Disk.Makes locations b.disk (g.prepareDirectory.run b).2.disk := by
  have hensures := b.disk.ensureDirectory_ensures g.generationPath
  rw [prepareDirectory_run]
  split
  · exact ⟨[], .refl _ _⟩
  · cases hensure : b.disk.ensureDirectory g.generationPath with
    | mk result disk =>
        rw [hensure] at hensures
        cases result with
        | ok => exact ⟨_, hensures.makes⟩
        | error e => exact ⟨_, hensures.makes⟩

theorem managerAttempts_along (htrans : ∀ {d e f past more}, R d past e → R e more f → R d (past ++ more) f)
    (hmakes : ∀ {locations d e}, Disk.Makes locations d e → R d [] e)
    (hattempt : ∀ a flow, a.workshop.manager.workflow = some flow → R a.before.disk [a] (a.outcome g).2.disk)
    {m : ProcessManager} {b c : Bench} {written : List Path} (hrun : (g.buildManager m).run b = (.ok written, c)) :
    R b.disk (g.managerAttempts m b) c.disk := by
  have hprepare (b : Bench) : R b.disk [] (g.prepareDirectory.run b).2.disk := by
    obtain ⟨locations, h⟩ := prepareDirectory_makes g b
    exact hmakes h
  unfold managerAttempts
  cases hready : g.ready? m with
  | none =>
      have hidle := (buildManager_of_not_ready hready none).preserves (R := fun b c => R b.disk [] c.disk)
        (fun b => hmakes (.refl [] _)) (fun hab hbc => htrans hab hbc) (fun _ _ _ _ _ _ => hmakes (.refl [] _))
        (fun _ _ _ _ => hmakes (.refl [] _)) (fun _ _ _ _ => hmakes (.refl [] _)) (fun _ _ _ _ h => absurd h id)
        (fun β y b hy => by
          cases hy with
          | prepare => exact hprepare b) b
      rw [hrun] at hidle
      exact hidle
  | some resource =>
      obtain ⟨⟨flow, hflow⟩, _, heq⟩ := buildManager_of_ready hready
      rw [heq] at hrun
      obtain ⟨_, d, hprepared, hrun⟩ := Build.run_bind_ok hrun
      obtain ⟨_, e, hlog, hrun⟩ := Build.run_bind_ok hrun
      cases hlog
      have hfirst := hprepare b
      dsimp only
      rw [hprepared] at hfirst ⊢
      exact htrans hfirst (attempts_along (w := g.workshop m (some resource)) htrans hmakes hattempt hflow hrun)

/-- What is so from before each attempt to after it, and wherever directories are made, is so from the start of a run to
its end. -/
theorem history_along (htrans : ∀ {d e f past more}, R d past e → R e more f → R d (past ++ more) f)
    (hmakes : ∀ {locations d e}, Disk.Makes locations d e → R d [] e)
    (hattempt : ∀ a flow, a.workshop.manager.workflow = some flow → R a.before.disk [a] (a.outcome g).2.disk)
    {cancel : Option (Nat → Bool)} {ts : List Turn} {p q : Progress}
    (hrun : (g.runTurns cancel ts).run p = (.ok (), q)) : R p.disk (g.history cancel ts p) q.disk := by
  induction ts generalizing p with
  | nil =>
      cases hrun
      exact hmakes (.refl [] _)
  | cons t rest ih =>
      rw [runTurns_cons_run] at hrun
      rw [history]
      cases hturn : (g.runTurn cancel t).run p with
      | mk result r =>
          rw [hturn] at hrun
          cases result with
          | error s => cases hrun
          | ok =>
              refine htrans ?_ (ih hrun)
              cases t with
              | idle application =>
                  cases hturn
                  exact hmakes (.refl [] _)
              | build application index m =>
                  obtain ⟨checks, written, c, hbuild, rfl⟩ := runTurn_build_ok hturn
                  exact managerAttempts_along htrans hmakes hattempt hbuild

end Along

/-- What some attempts leave alone and what they leave behind, with places as they are on a disk that is not larger. -/
structure Framed (g : Generator) (base d : Disk) (past : List Attempt) (e : Disk) : Prop where
  grows : base.Grows e
  before : ∀ a ∈ past, base.Grows a.before.disk
  same : ∀ l, (∀ a ∈ past, ∀ p, a.Puts g p → base.place p ≠ l) → e.fileAt? l = d.fileAt? l
  holds : ∀ earlier a later p, past = earlier ++ a :: later → a.written g = some p →
    (∀ x ∈ later, ∀ q, x.Puts g q → base.place q ≠ base.place p) →
    ∃ document, (a.drafted g).1 = .ok (some (p, document)) ∧
      e.fileAt? (base.place p) = some (.text (Attempt.textOf g document))

theorem Framed.trans {base d e f : Disk} {past more : List Attempt} (hde : g.Framed base d past e)
    (hef : g.Framed base e more f) : g.Framed base d (past ++ more) f where
  grows := hef.grows
  before := by
    rw [List.forall_mem_append]
    exact ⟨hde.before, hef.before⟩
  same l h := by
    rw [List.forall_mem_append] at h
    rw [hef.same l h.2, hde.same l h.1]
  holds earlier a later p heq hwritten hlater := by
    -- The attempt is one of the first ones, and the others put nothing over its document, or it is one of the others.
    rcases List.append_eq_append_iff.mp heq with ⟨rest, hearlier, hmore⟩ | ⟨rest, hpast, hlast⟩
    · exact hef.holds rest a later p hmore hwritten hlater
    · cases rest with
      | nil =>
          rw [List.nil_append] at hlast
          exact hef.holds [] a later p hlast.symm hwritten hlater
      | cons first others =>
          rw [List.cons_append, List.cons.injEq] at hlast
          obtain ⟨rfl, rfl⟩ := hlast
          rw [List.forall_mem_append] at hlater
          obtain ⟨document, hdrafted, hfile⟩ := hde.holds earlier a others p hpast hwritten hlater.1
          exact ⟨document, hdrafted, (hef.same _ hlater.2).trans hfile⟩

theorem framed_of_makes {base d e : Disk} {locations : List Location} (h : Disk.Makes locations d e)
    (hbase : base.Grows d) : g.Framed base d [] e where
  grows := hbase.trans h.grows
  before := by simp
  same l _ := h.fileAt?_eq l
  holds earlier a later p heq := by simp at heq

theorem framed_of_attempt (hregistry : g.registry.BuiltIn) {a : Attempt} {flow : Workflow}
    (hflow : a.workshop.manager.workflow = some flow) {base : Disk} (hbase : base.Grows a.before.disk) :
    g.Framed base a.before.disk [a] (a.outcome g).2.disk := by
  obtain ⟨hgrows, hsame⟩ := a.outcome_frame hregistry hflow
  refine ⟨hbase.trans hgrows, ?_, ?_, ?_⟩
  · rw [List.forall_mem_singleton]
    exact hbase
  · intro l hl
    rw [List.forall_mem_singleton] at hl
    apply hsame
    intro p hp
    rw [hbase.place_eq]
    exact hl p hp
  · intro earlier x later p heq hwritten _
    have hx : a = x := by
      have hmem : x ∈ [a] := by
        rw [heq]
        exact List.mem_append_right _ List.mem_cons_self
      exact (List.mem_singleton.mp hmem).symm
    rw [← hx] at hwritten ⊢
    rw [← hbase.place_eq]
    exact a.fileAt?_of_written hregistry hflow hwritten

theorem framed_of_run (hregistry : g.registry.BuiltIn) {cancel : Option (Nat → Bool)} {ts : List Turn} {p q : Progress}
    (hrun : (g.runTurns cancel ts).run p = (.ok (), q)) :
    g.Framed p.disk p.disk (g.history cancel ts p) q.disk := by
  refine history_along (R := fun d past e => p.disk.Grows d → g.Framed p.disk d past e) ?_ ?_ ?_ hrun (.refl _)
  · intro d e f past more hde hef hd
    exact (hde hd).trans (hef (hde hd).grows)
  · intro locations d e hmakes hd
    exact framed_of_makes hmakes hd
  · intro a flow hflow hd
    exact framed_of_attempt hregistry hflow hd

end Generator

/-- What a run changes on the disk, by its attempts. A file that is not as it was is a document that was written or a
text that a rendering kept. A document that nothing is put over later is there with its whole text. An attempt writes
nothing exactly if there is no document to write; the file at its destination is then as it was, during the attempt and
over the whole run, if no other document and no kept text is put there. -/
structure Generator.Changes (g : Generator) (disk : Disk) (history : List Attempt) (written : List Path)
    (after : Disk) : Prop where
  written_eq : written = history.filterMap (·.written g)
  changed : ∀ l, after.fileAt? l ≠ disk.fileAt? l →
    (∃ p ∈ written, disk.place p = l) ∨ ∃ a ∈ history, ∃ p, a.Keeps g p ∧ disk.place p = l
  holds : ∀ earlier a later p, history = earlier ++ a :: later → a.written g = some p →
    (∀ x ∈ later, ∀ q, x.Puts g q → disk.place q ≠ disk.place p) →
    ∃ document, (a.drafted g).1 = .ok (some (p, document)) ∧
      after.fileAt? (disk.place p) = some (.text (document.text (Layout.ofIndent g.jsonIndent)))
  unwritten : ∀ a ∈ history,
    (a.written g = none ↔ (a.drafted g).1 = .ok none ∨ ∃ e, (a.drafted g).1 = .error (.render e))
  destination : ∀ a ∈ history, ∀ output, Generator.outputOf? a.workshop a.kind = some output → a.written g = none →
    let l := disk.place (g.destination output)
    ((∀ p, a.Keeps g p → disk.place p ≠ l) → (a.outcome g).2.disk.fileAt? l = a.before.disk.fileAt? l) ∧
    ((∀ x ∈ history, ∀ p, x.Puts g p → disk.place p ≠ l) → after.fileAt? l = disk.fileAt? l)

/-- With a target that takes no documents a run changes nothing on the disk. Otherwise it changes what its attempts put
there, if it ends with a report, be that good or bad. -/
theorem generation_changes_only_what_it_writes (g : Generator) (cancel : Option (Nat → Bool)) (model : MigrationModel)
    (disk : Disk) (journal : Journal) (checks : Nat) (hregistry : g.registry.BuiltIn) :
    let start := Progress.start disk journal checks
    let final := (g.generate cancel model).run start
    let history := g.history cancel (Generator.turns 0 model.applications) start
    (model.target.hostsStandard = false → final.2.disk = disk ∧ final.2.written = []) ∧
    ∀ report, model.target.hostsStandard = true → (final.1 = .ok report ∨ final.1 = .error (.failed report)) →
      g.Changes disk history report.written final.2.disk := by
  intro start final history
  have hfinal : final = _ := g.generate_run cancel model start
  constructor
  · intro htarget
    rw [htarget, if_neg (by decide)] at hfinal
    rw [hfinal]
    exact ⟨rfl, rfl⟩
  · intro report htarget hreport
    obtain ⟨q, hrun, rfl⟩ := Generator.exists_run_of_report htarget hreport
    have hdisk : final.2.disk = q.disk := by
      rw [hfinal, if_pos htarget, hrun]
    obtain ⟨hdocuments, hends, hwritten, _, _⟩ := Generator.history_of_ok hregistry hrun
    have hframed : g.Framed disk disk history q.disk := Generator.framed_of_run hregistry hrun
    rw [hdisk]
    refine ⟨hwritten, ?_, hframed.holds, ?_, ?_⟩
    · intro l hl
      by_contra hnone
      rw [not_or] at hnone
      refine hl (hframed.same l fun a ha p hp heq => ?_)
      rcases hp with hp | hp
      · refine hnone.1 ⟨p, ?_, heq⟩
        rw [Progress.report, hwritten]
        exact List.mem_append_right _ (List.mem_filterMap.mpr ⟨a, ha, hp⟩)
      · exact hnone.2 ⟨a, ha, p, hp, heq⟩
    · intro a ha
      obtain ⟨result, after, houtcome, _, _⟩ := hends a ha
      exact Attempt.written_eq_none_iff (by rw [houtcome])
    · intro a ha output _ hunwritten l
      refine ⟨fun hkeeps => ?_, hframed.same l⟩
      have hdocument : a.document ∈ history.map Attempt.document := List.mem_map_of_mem ha
      rw [hdocuments] at hdocument
      obtain ⟨m, _, hexpected⟩ := List.mem_flatMap.mp hdocument
      obtain ⟨flow, hflow⟩ := Generator.exists_workflow_of_mem_expected hexpected
      apply (a.outcome_frame hregistry hflow).2
      intro p hp
      rw [(hframed.before a ha).place_eq]
      rcases hp with hp | hp
      · rw [hunwritten] at hp
        cases hp
      · exact hkeeps p hp

/-- A document that cannot be built, for its skeleton is no JSON, and one that can. -/
def halfModel : MigrationModel :=
  smallModel [smallManager "pm" "flow"
    [(.connections, "conn.json", some "debug", "c.json"), (.appSettings, "app.json", none, "a.json")]]

/-- A disk with both documents of an earlier run. -/
def earlierDisk : Disk :=
  { invalidDisk with
    entries := invalidDisk.entries ++
      [(["generated"], .directory), (["generated", "c.json"], .file (.text "old")),
        (["generated", "a.json"], .file (.text "old"))] }

/-- The files that a failed run reports as written. -/
def Stop.written? : Except Stop Report → Option (List Path)
  | .error (.failed r) => some r.written
  | _ => none

theorem Stop.exists_failed {result : Except Stop Report} {written : List Path} (h : written? result = some written) :
    ∃ r, result = .error (.failed r) ∧ r.written = written := by
  unfold written? at h
  split at h
  · exact ⟨_, rfl, Option.some.inj h⟩
  · cases h

/-- The text of the bad skeleton is kept, the document that can be built is replaced, and the other one stays. -/
theorem generation_changes_only_what_it_writes_half :
    let start := Progress.start earlierDisk .empty 0
    let final := (smallGenerator.generate none halfModel).run start
    let history := smallGenerator.history none (Generator.turns 0 halfModel.applications) start
    final.2.disk.fileAt? ["generated", "debug", "1.flow.conn.json"] = some (.text "oops") ∧
      final.2.disk.fileAt? ["generated", "c.json"] = some (.text "old") ∧
      final.2.disk.fileAt? ["generated", "a.json"] = some (.text "\x7b\x7d") ∧
      ∃ report, final.1 = .error (.failed report) ∧ report.written = [⟨0, ["generated", "a.json"]⟩] ∧
        smallGenerator.Changes earlierDisk history report.written final.2.disk := by
  have hrun :
      let final := (smallGenerator.generate none halfModel).run (Progress.start earlierDisk .empty 0)
      (final.2.disk.fileAt? ["generated", "debug", "1.flow.conn.json"] = some (.text "oops") ∧
        final.2.disk.fileAt? ["generated", "c.json"] = some (.text "old") ∧
        final.2.disk.fileAt? ["generated", "a.json"] = some (.text "\x7b\x7d")) ∧
      Stop.written? final.1 = some [⟨0, ["generated", "a.json"]⟩] := by
    decide +kernel
  obtain ⟨⟨hkept, hstays, hreplaced⟩, hreported⟩ := hrun
  obtain ⟨report, hfailed, hwritten⟩ := Stop.exists_failed hreported
  obtain ⟨_, hall⟩ :=
    generation_changes_only_what_it_writes smallGenerator none halfModel earlierDisk .empty 0 Registry.standard_builtIn
  exact ⟨hkept, hstays, hreplaced, report, hfailed, hwritten, hall report rfl (.inr hfailed)⟩

end WorkflowForge
