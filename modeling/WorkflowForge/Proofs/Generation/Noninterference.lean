import Mathlib.Data.List.Find
import WorkflowForge.Proofs.Assembly.Unnumbered
import WorkflowForge.Proofs.Generation.Frame
import WorkflowForge.Proofs.Generation.Independence

/-!
Numbers do not leak into documents that are made without templates. Two builds of a document that start from different
numbers, with different stamps on the workflow, give the same document or fail in the same way, record the same issues
and take as many numbers. Hence a document does not depend on what became of the documents before it.

Numbers do show in the names of the files that rendered texts are kept in. So this holds only as long as no text that is
kept gets in the way of a search for a snippet, and as no writing fails.
-/

namespace WorkflowForge

open Event (writtenFiles writtenFiles_append)

namespace Workshop

/-- Two disks on which the searches for the snippets of a workshop come to the same. -/
def SeesSame (w : Workshop) (d e : Disk) : Prop :=
  ∀ s ∈ w.manager.snippets, ∀ q ∈ Snippet.candidates w.templatePaths s.templateFile, ∀ content,
    e.readContent q = .ok content ↔ d.readContent q = .ok content

/-- All snippets whose files are found are taken as they stand. -/
def IsPlain (w : Workshop) (d : Disk) : Prop :=
  ∀ s ∈ w.manager.snippets, ∀ source, Snippet.findFile w.templatePaths d s.templateFile = some source →
    Snippet.isTemplate w.suffixes source = false

/-- From one bench to another nothing gets in the way of a search for a snippet. -/
def Quiet (w : Workshop) (start final : Bench) : Prop :=
  ∀ s ∈ w.manager.snippets, ∀ q ∈ Snippet.candidates w.templatePaths s.templateFile,
    start.disk.Undisturbed final.disk (final.journal.events.drop start.journal.events.length) q

instance (w : Workshop) (start final : Bench) : Decidable (w.Quiet start final) :=
  inferInstanceAs (Decidable (∀ s ∈ w.manager.snippets, ∀ q ∈ Snippet.candidates w.templatePaths s.templateFile,
    start.disk.Undisturbed final.disk (final.journal.events.drop start.journal.events.length) q))

instance (w : Workshop) (d : Disk) : Decidable (w.IsPlain d) :=
  decidable_of_iff (∀ s ∈ w.manager.snippets, (Snippet.findFile w.templatePaths d s.templateFile).all
      (fun source => !Snippet.isTemplate w.suffixes source) = true) (by
    simp only [IsPlain, Option.all_eq_true, Bool.not_eq_true'])

namespace SeesSame

variable {w : Workshop} {d e f : Disk}

theorem refl (w : Workshop) (d : Disk) : w.SeesSame d d := fun _ _ _ _ _ => Iff.rfl

theorem symm (h : w.SeesSame d e) : w.SeesSame e d := fun s hs q hq content => (h s hs q hq content).symm

theorem trans (hde : w.SeesSame d e) (hef : w.SeesSame e f) : w.SeesSame d f :=
  fun s hs q hq content => (hef s hs q hq content).trans (hde s hs q hq content)

theorem findFile_eq (h : w.SeesSame d e) {s : Snippet} (hs : s ∈ w.manager.snippets) :
    Snippet.findFile w.templatePaths e s.templateFile = Snippet.findFile w.templatePaths d s.templateFile := by
  refine List.find?_congr fun q hq => ?_
  rw [Bool.eq_iff_iff, Disk.isFile_iff, Disk.isFile_iff]
  exact exists_congr fun content => h s hs q hq content

theorem readText_eq (h : w.SeesSame d e) {s : Snippet} (hs : s ∈ w.manager.snippets) {source : Path}
    (hfind : Snippet.findFile w.templatePaths d s.templateFile = some source) :
    e.readText source = d.readText source := by
  have hmem : source ∈ Snippet.candidates w.templatePaths s.templateFile := List.mem_of_find?_eq_some hfind
  obtain ⟨content, hcontent⟩ := (d.isFile_iff _).mp (Snippet.findFile_eq_some hfind).1
  apply Disk.readText_congr
  rw [hcontent]
  exact (h s hs source hmem content).mpr hcontent

end SeesSame

theorem IsPlain.of_seesSame {w : Workshop} {d e : Disk} (hd : w.IsPlain d) (h : w.SeesSame d e) : w.IsPlain e := by
  intro s hs source hfind
  rw [h.findFile_eq hs] at hfind
  exact hd s hs source hfind

end Workshop

/-- A bench on the way from one to another, as far as journals and disks tell. -/
structure Bench.Between (start final b : Bench) : Prop where
  since : Told (fun _ => True) start.journal start.disk b.journal b.disk
  ahead : Told (fun _ => True) b.journal b.disk final.journal final.disk

namespace Bench.Between

variable {start final b : Bench} {w : Workshop}

/-- The searches for snippets come to the same all the way. -/
theorem seesSame (h : Between start final b) (hstart : start.disk.WellFormed) (hquiet : w.Quiet start final) :
    w.SeesSame start.disk b.disk := by
  intro s hs q hq content
  obtain ⟨hplaces, hup⟩ := hquiet s hs q hq
  obtain ⟨hgrows, more, hmore, _, hchanged⟩ := h.since
  obtain ⟨hahead, rest, hrest, _⟩ := h.ahead
  apply Disk.readContent_undisturbed hstart hgrows
  · intro content hfile
    rcases hchanged _ _ hfile with hbefore | ⟨p, hp, hplace⟩
    · exact hbefore
    · refine absurd hplace (hplaces p ?_)
      rw [hrest, hmore, List.append_assoc, List.drop_left, writtenFiles_append]
      exact List.mem_append_left _ hp
  · intro l hl hdirectory
    exact hup l hl (hahead.directory hdirectory)

/-- The bench between two steps is on the way if those before and after them are. -/
theorem mid {α β : Type} {x : Build α} {f : α → Build β} {r : Except Fault β} {r₁ : Except Fault α} {b' b₁ : Bench}
    (hb : Between start final b) (hb' : Between start final b') (hx : Build.IsTold x)
    (hf : ∀ a, r₁ = .ok a → Build.IsTold (f a)) (hfirst : x.run b = (r₁, b₁)) (hrun : (x >>= f).run b = (r, b')) :
    Between start final b₁ := by
  have htold := hx b
  rw [Build.run_bind, hfirst] at hrun
  rw [hfirst] at htold
  refine ⟨hb.since.trans htold, ?_⟩
  cases r₁ with
  | error e =>
      cases hrun
      exact hb'.ahead
  | ok a =>
      have hrest := hf a rfl b₁
      dsimp only at hrun
      rw [hrun] at hrest
      exact hrest.trans hb'.ahead

end Bench.Between

/-- From two benches as many numbers were taken, and the same issues were recorded. -/
structure Bench.InStep (b c b' c' : Bench) : Prop where
  ids : c'.ids - c.ids = b'.ids - b.ids
  issues : ∃ more, b'.issues = b.issues ++ more ∧ c'.issues = c.issues ++ more

namespace Bench.InStep

theorem of_same {b c b' c' : Bench} (hb : b'.ids = b.ids) (hc : c'.ids = c.ids) (hbissues : b'.issues = b.issues)
    (hcissues : c'.issues = c.issues) : InStep b c b' c' where
  ids := by rw [hb, hc, Int.sub_self, Int.sub_self]
  issues := ⟨[], by rw [hbissues, List.append_nil], by rw [hcissues, List.append_nil]⟩

theorem trans {b c b₁ c₁ b' c' : Bench} (h : InStep b c b₁ c₁) (h' : InStep b₁ c₁ b' c') : InStep b c b' c' where
  ids := by
    have hfirst := h.ids
    have hrest := h'.ids
    omega
  issues := by
    obtain ⟨first, hb, hc⟩ := h.issues
    obtain ⟨rest, hb', hc'⟩ := h'.issues
    exact ⟨first ++ rest, by rw [hb', hb, List.append_assoc], by rw [hc', hc, List.append_assoc]⟩

end Bench.InStep

namespace Build

/-- No writing failed: a fault of the disk comes from a file that is no text. -/
def Unhindered {α : Type} (r : Except Fault α) : Prop := ∀ e, r = .error (.disk e) → e = .undecodable

theorem unhindered_ok {α : Type} (a : α) : Unhindered (.ok a : Except Fault α) := by
  intro e he
  cases he

theorem Unhindered.error {α β : Type} {f : Fault} (h : Unhindered (.error f : Except Fault α)) :
    Unhindered (.error f : Except Fault β) := by
  intro e he
  cases he
  exact h e rfl

instance {α : Type} (r : Except Fault α) : Decidable (Unhindered r) :=
  match r with
  | .ok a => isTrue (unhindered_ok a)
  | .error (.disk e) => decidable_of_iff (e = .undecodable) ⟨fun h _ he => by cases he; exact h, fun h => h e rfl⟩
  | .error (.render _) => isTrue fun _ he => by cases he
  | .error (.template _) => isTrue fun _ he => by cases he

theorem keep_ne_undecodable {templated : Bool} {source target : Path} {text : String} {d e : Disk} :
    keep templated source target text d ≠ (.error .undecodable, e) := by
  unfold keep
  split
  · exact Disk.writeText_ne_undecodable
  · exact Disk.copyFile_ne_undecodable

/-- What the rendering of a snippet gives whose file is taken as it stands. -/
def plainResult (w : Workshop) (snippet : Snippet) (d : Disk) : Except Fault (Option Json) :=
  match Snippet.findFile w.templatePaths d snippet.templateFile with
  | none => .ok none
  | some source =>
    match d.readText source with
    | .error e => .error (.disk e)
    | .ok text => parseRendered snippet text

/-- The issues of such a rendering. -/
def plainIssues (w : Workshop) (snippet : Snippet) (d : Disk) : List Issue :=
  if (Snippet.findFile w.templatePaths d snippet.templateFile).isNone then [missing w snippet] else []

/-- What comes of the rendering of a snippet whose file is taken as it stands is to be read off the disk alone. -/
theorem renderJson_of_isPlain {w : Workshop} {item : Option Item} {snippet : Snippet} {b b' : Bench}
    {r : Except Fault (Option Json)} (hplain : w.IsPlain b.disk) (hsnippet : snippet ∈ w.manager.snippets)
    (hrun : (renderJson w item snippet true).run b = (r, b')) (hr : Unhindered r) :
    r = plainResult w snippet b.disk ∧ b'.document = b.document ∧ b'.ids = b.ids + 1 ∧
      b'.issues = b.issues ++ plainIssues w snippet b.disk := by
  rw [renderJson_run] at hrun
  unfold plainResult plainIssues
  cases hfind : Snippet.findFile w.templatePaths b.disk snippet.templateFile with
  | none =>
      rw [hfind] at hrun
      cases hrun
      exact ⟨rfl, rfl, rfl, rfl⟩
  | some source =>
      rw [hfind] at hrun
      have htext : textOf w item snippet source (numbered item b) = match b.disk.readText source with
          | .error e => .error (.disk e)
          | .ok text => .ok text := by
        rw [textOf, hplain snippet hsnippet source hfind]
        rfl
      dsimp only at hrun ⊢
      rw [htext] at hrun
      rw [Option.isNone_some, if_neg (by decide), List.append_nil]
      cases hread : b.disk.readText source with
      | error e =>
          rw [hread] at hrun
          cases hrun
          exact ⟨rfl, rfl, rfl, rfl⟩
      | ok text =>
          rw [hread] at hrun
          dsimp only at hrun ⊢
          split at hrun
          · rw [Prod.mk.injEq] at hrun
            obtain ⟨rfl, rfl⟩ := hrun
            exact ⟨rfl, rfl, rfl, rfl⟩
          · split at hrun
            · rw [Prod.mk.injEq] at hrun
              obtain ⟨rfl, rfl⟩ := hrun
              exact ⟨rfl, rfl, rfl, rfl⟩
            · next e disk hkeep =>
                rw [Prod.mk.injEq] at hrun
                obtain ⟨rfl, rfl⟩ := hrun
                rw [hr e rfl] at hkeep
                exact absurd hkeep keep_ne_undecodable

section InStep

variable {start final start' final' : Bench} {w w' : Workshop} {within : List String} {α β : Type}

/-- Two builds that go in step between the given benches, from benches with the same document: they end alike, and again
with the same document. -/
def GoInStep (start final start' final' : Bench) (x x' : Build α) : Prop :=
  ∀ ⦃b c b' c' : Bench⦄ ⦃r r' : Except Fault α⦄, x.run b = (r, b') → x'.run c = (r', c') →
    start.Between final b → start.Between final b' → start'.Between final' c → start'.Between final' c' →
    c.document = b.document → Unhindered r → Unhindered r' →
    r' = r ∧ c'.document = b'.document ∧ b.InStep c b' c'

theorem GoInStep.bind {x x' : Build α} {f f' : α → Build β} (hx : GoInStep start final start' final' x x')
    (htold : IsTold x) (htold' : IsTold x')
    (hf : ∀ b a c, x.run b = (.ok a, c) → IsTold (f a) ∧ GoInStep start final start' final' (f a) (f' a))
    (hf' : ∀ b a c, x'.run b = (.ok a, c) → IsTold (f' a)) :
    GoInStep start final start' final' (x >>= f) (x' >>= f') := by
  intro b c b' c' r r' hrun hrun' hb hb' hc hc' hdocument hr hr'
  cases hfirst : x.run b with
  | mk r₁ b₁ =>
  cases hfirst' : x'.run c with
  | mk r₁' c₁ =>
      have hb₁ := hb.mid hb' htold (fun a ha => (hf b a b₁ (ha ▸ hfirst)).1) hfirst hrun
      have hc₁ := hc.mid hc' htold' (fun a ha => hf' c a c₁ (ha ▸ hfirst')) hfirst' hrun'
      rw [run_bind, hfirst] at hrun
      rw [run_bind, hfirst'] at hrun'
      -- A fault of the first step is the fault of the whole.
      have hr₁ : Unhindered r₁ := by
        cases r₁ with
        | ok a => exact unhindered_ok a
        | error e =>
            cases hrun
            exact hr.error
      have hr₁' : Unhindered r₁' := by
        cases r₁' with
        | ok a => exact unhindered_ok a
        | error e =>
            cases hrun'
            exact hr'.error
      obtain ⟨hsame, hbetween, hstep⟩ := hx hfirst hfirst' hb hb₁ hc hc₁ hdocument hr₁ hr₁'
      rw [hsame] at hrun'
      cases r₁ with
      | error e =>
          cases hrun
          cases hrun'
          exact ⟨rfl, hbetween, hstep⟩
      | ok a =>
          obtain ⟨hlast, hafter, hrest⟩ := (hf b a b₁ hfirst).2 hrun hrun' hb₁ hb' hc₁ hc' hbetween hr hr'
          exact ⟨hlast, hafter, hstep.trans hrest⟩

/-- Where the searches come to the same, the rendering of a snippet whose file is taken as it stands does too. -/
theorem plain_eq (hmanager : w'.manager.unnumbered = w.manager.unnumbered) (hpaths : w'.templatePaths = w.templatePaths)
    {d e : Disk} (hsame : w.SeesSame d e) {snippet : Snippet} (hsnippet : snippet ∈ w.manager.snippets) :
    plainResult w' snippet e = plainResult w snippet d ∧ plainIssues w' snippet e = plainIssues w snippet d := by
  have hfind := hsame.findFile_eq hsnippet
  have hmissing : missing w' snippet = missing w snippet := by
    rw [missing, missing, ProcessManager.name_eq_of_unnumbered_eq hmanager]
  constructor
  · rw [plainResult, plainResult, hpaths, hfind]
    cases hsource : Snippet.findFile w.templatePaths d snippet.templateFile with
    | none => rfl
    | some source =>
        dsimp only
        rw [hsame.readText_eq hsnippet hsource]
  · rw [plainIssues, plainIssues, hpaths, hfind, hmissing]

theorem renderJson_goInStep (hmanager : w'.manager.unnumbered = w.manager.unnumbered)
    (hpaths : w'.templatePaths = w.templatePaths) (hsuffixes : w'.suffixes = w.suffixes)
    (hplain : ∀ b, start.Between final b → w.IsPlain b.disk)
    (hsees : ∀ b c, start.Between final b → start'.Between final' c → w.SeesSame b.disk c.disk)
    (item item' : Option Item) {snippet : Snippet} (hsnippet : snippet ∈ w.manager.snippets) :
    GoInStep start final start' final' (renderJson w item snippet true) (renderJson w' item' snippet true) := by
  intro b c b' c' r r' hrun hrun' hb _ hc _ hdocument hr hr'
  have hsnippets := ProcessManager.snippets_eq_of_unnumbered_eq hmanager
  have hsame := hsees b c hb hc
  have hplain' : w'.IsPlain c.disk := by
    intro s hs source hfind
    rw [hsnippets] at hs
    rw [hpaths] at hfind
    rw [hsuffixes]
    exact (hplain b hb).of_seesSame hsame s hs source hfind
  obtain ⟨hresult, hd, hids, hissues⟩ := renderJson_of_isPlain (hplain b hb) hsnippet hrun hr
  obtain ⟨hresult', hd', hids', hissues'⟩ := renderJson_of_isPlain hplain' (hsnippets.symm ▸ hsnippet) hrun' hr'
  obtain ⟨hresults, hall⟩ := plain_eq hmanager hpaths hsame hsnippet
  refine ⟨by rw [hresult, hresult', hresults], by rw [hd, hd', hdocument], ?_, ?_⟩
  · rw [hids, hids']
    omega
  · exact ⟨plainIssues w snippet b.disk, hissues, by rw [hissues', hall]⟩

/-- A pairing for drafts of process managers that differ in their numbers. -/
def byHeading : Pairing where
  renders item item' := item'.map Item.heading = item.map Item.heading
  further α x x' := x' = x ∧ Generator.DraftStep α x
  name_eq h := congrArg Prod.fst (Option.some.inj h)
  type_eq h := congrArg Prod.snd (Option.some.inj h)

/-- The terms of drafts for whatever is rendered. -/
def anyDraft : Terms := ⟨fun _ => True, Generator.DraftStep⟩

theorem isTold_of_draftStep {x : Build α} (h : Generator.DraftStep α x) : IsTold x := by
  cases h with
  | onDocument f => exact fun b => .refl _ _

theorem Paired.composed_left {x x' : Build α} {post : α → Prop} (hx : Paired w w' byHeading within x x' post) :
    Composed w anyDraft within x post :=
  Paired.composed (p := byHeading) (fun _ _ _ => trivial) (fun _ _ _ h => h.2) hx

/-- Builds that do corresponding steps go in step, if the searches for snippets come to the same on both sides. -/
theorem Paired.goInStep {x x' : Build α} {post : α → Prop} (hx : Paired w w' byHeading within x x' post)
    (hmanager : w'.manager.unnumbered = w.manager.unnumbered) (hpaths : w'.templatePaths = w.templatePaths)
    (hproper : w.generationPath.IsProper) (hproper' : w'.generationPath.IsProper)
    (hsuffixes : w'.suffixes = w.suffixes) (hplain : ∀ b, start.Between final b → w.IsPlain b.disk)
    (hsees : ∀ b c, start.Between final b → start'.Between final' c → w.SeesSame b.disk c.disk) :
    GoInStep start final start' final' x x' := by
  have hsnippets := ProcessManager.snippets_eq_of_unnumbered_eq hmanager
  have hright {γ : Type} {y y' : Build γ} {post : γ → Prop} (hy : Paired w w' byHeading within y y' post) :
      Composed w' anyDraft within y' post :=
    Paired.composed_right (p := byHeading) hsnippets (fun _ _ _ => trivial) (fun _ _ _ h => h.1 ▸ h.2) hy
  induction hx with
  | pure h =>
      intro b c b' c' r r' hrun hrun' _ _ _ _ hdocument _ _
      cases hrun
      cases hrun'
      exact ⟨rfl, hdocument, .of_same rfl rfl rfl rfl⟩
  | bind hx hf ihx ihf =>
      have htold {γ : Type} {y : Build γ} {post : γ → Prop} (hy : Composed w anyDraft within y post) : IsTold y :=
        hy.told_any hproper fun β z b hz => isTold_of_draftStep hz b
      have htold' {γ : Type} {y : Build γ} {post : γ → Prop} (hy : Composed w' anyDraft within y post) : IsTold y :=
        hy.told_any hproper' fun β z b hz => isTold_of_draftStep hz b
      refine ihx.bind (htold hx.composed_left) (htold' (hright hx)) ?_ ?_
      · intro b a c hrun
        have hmid := hx.post hrun
        exact ⟨htold (hf a hmid).composed_left, ihf a hmid⟩
      · intro c a d hrun
        exact htold' (hright (hf a ((hright hx).post hrun)))
  | document =>
      intro b c b' c' r r' hrun hrun' _ _ _ _ hdocument _ _
      cases hrun
      cases hrun'
      exact ⟨congrArg Except.ok hdocument, hdocument, .of_same rfl rfl rfl rfl⟩
  | log level logger name fields fields' hname =>
      intro b c b' c' r r' hrun hrun' _ _ _ _ hdocument _ _
      cases hrun
      cases hrun'
      exact ⟨rfl, hdocument, .of_same rfl rfl rfl rfl⟩
  | record kind message path hkind =>
      intro b c b' c' r r' hrun hrun' _ _ _ _ hdocument _ _
      rw [record_run] at hrun hrun'
      rw [ProcessManager.name_eq_of_unnumbered_eq hmanager] at hrun'
      cases hrun
      cases hrun'
      exact ⟨rfl, hdocument, by simp [recorded], ⟨_, rfl, rfl⟩⟩
  | add s hwithin name body =>
      intro b c b' c' r r' hrun hrun' _ _ _ _ hdocument _ _
      rw [add_run_eq] at hrun hrun'
      rw [hdocument] at hrun'
      cases hrun
      cases hrun'
      exact ⟨rfl, rfl, .of_same rfl rfl rfl rfl⟩
  | renderJson item item' snippet hsnippet hitem =>
      exact renderJson_goInStep hmanager hpaths hsuffixes hplain hsees item item' hsnippet
  | further h =>
      intro b c b' c' r r' hrun hrun' _ _ _ _ hdocument _ _
      obtain ⟨hsame, hstep⟩ := h
      rw [hsame] at hrun'
      cases hstep with
      | onDocument f =>
          cases hrun
          have hrun₂ : (onDocument f).run c = (.ok (f b.document).1, { c with document := (f b.document).2 }) := by
            rw [← hdocument]
            rfl
          rw [hrun₂] at hrun'
          cases hrun'
          exact ⟨rfl, rfl, .of_same rfl rfl rfl rfl⟩

end InStep

section Forgetful

variable {w : Workshop} {α β : Type}

/-- A build that comes to the same whatever document it starts from. -/
def Forgetful (x : Build α) : Prop :=
  ∀ b document, ∃ last, x.run { b with document := document } = ((x.run b).1, { (x.run b).2 with document := last })

theorem Forgetful.pure (a : α) : Forgetful (Pure.pure a) := fun _ document => ⟨document, rfl⟩

theorem Forgetful.bind {x : Build α} {f : α → Build β} (hx : Forgetful x) (hf : ∀ a, Forgetful (f a)) :
    Forgetful (x >>= f) := by
  intro b document
  obtain ⟨middle, hmiddle⟩ := hx b document
  rw [run_bind, run_bind, hmiddle]
  cases x.run b with
  | mk r c =>
      cases r with
      | error e => exact ⟨middle, rfl⟩
      | ok a => exact hf a c middle

theorem log_forgetful (level : Level) (logger name : String) (fields : Fields) :
    Forgetful (log level logger name fields) :=
  fun _ document => ⟨document, rfl⟩

theorem record_forgetful (kind : IssueKind) (message : String) (path : Option String) :
    Forgetful (record w kind message path) :=
  fun _ document => ⟨document, rfl⟩

theorem renderJson_forgetful (item : Option Item) (snippet : Snippet) :
    Forgetful (renderJson w item snippet true) := by
  intro b document
  have htext (source : Path) : textOf w item snippet source (numbered item { b with document := document }) =
      textOf w item snippet source (numbered item b) := rfl
  refine ⟨document, ?_⟩
  rw [renderJson_run, renderJson_run]
  dsimp only
  cases Snippet.findFile w.templatePaths b.disk snippet.templateFile with
  | none => rfl
  | some source =>
      dsimp only
      rw [htext]
      cases textOf w item snippet source (numbered item b) with
      | error f => rfl
      | ok text =>
          dsimp only
          split
          · rfl
          · have htarget : nextTarget w item snippet source { b with document := document } =
                nextTarget w item snippet source b := rfl
            rw [htarget]
            cases keep (Snippet.isTemplate w.suffixes source) source (nextTarget w item snippet source b) text
                b.disk with
            | mk result disk => cases result <;> rfl

theorem insertParameters_forgetful (skeleton fields : Fields) : Forgetful (insertParameters w skeleton fields) := by
  induction fields generalizing skeleton with
  | nil => exact .pure _
  | cons first rest ih =>
      obtain ⟨name, value⟩ := first
      rw [insertParameters]
      dsimp only
      split
      · exact .bind (log_forgetful _ _ _ _) fun _ => ih skeleton
      · exact .bind (log_forgetful _ _ _ _) fun _ => .bind (ih _) fun _ => .pure _

theorem parametersFrom_forgetful (skeleton : Fields) (snippets : List Snippet) :
    Forgetful (parametersFrom w skeleton snippets) := by
  induction snippets generalizing skeleton with
  | nil => exact .pure _
  | cons snippet rest ih =>
      rw [parametersFrom]
      refine .bind (renderJson_forgetful _ snippet) fun data => ?_
      refine .bind (insertParameters_forgetful _ _) fun inserted => ?_
      exact .bind (ih _) fun _ => .pure _

theorem addParameters_forgetful (skeleton : Fields) : Forgetful (addParameters w skeleton) := by
  unfold addParameters
  split
  · exact .bind (log_forgetful _ _ _ _) fun _ => .pure _
  · exact parametersFrom_forgetful skeleton _

end Forgetful

end Build

namespace Generator

open Build (Forgetful Unhindered)

variable {g : Generator} {w : Workshop}

/-- The assembly of a definition begins with the skeleton. -/
theorem assembleDefinition_forgetful (skeleton : Json) : Forgetful (g.assembleDefinition w skeleton) :=
  fun b _ => ⟨((g.assembleDefinition w skeleton).run b).2.document, rfl⟩

theorem populate_forgetful (kind : ArtifactKind) (snippet : Snippet) (skeleton : Json) :
    Forgetful (g.populate w kind snippet skeleton) := by
  unfold populate
  split
  · exact assembleDefinition_forgetful skeleton
  · split
    · split
      · exact .bind (Build.addParameters_forgetful _) fun _ => .pure _
      · exact .bind (Build.record_forgetful _ _ _) fun _ => .pure _
    · exact .pure _

theorem draft_forgetful (kind : ArtifactKind) : Forgetful (g.draft w kind) := by
  unfold draft
  dsimp only
  split
  · exact .bind (Build.log_forgetful _ _ _ _) fun _ => .pure _
  · split
    · exact .bind (Build.record_forgetful _ _ _) fun _ => .pure _
    · refine .bind (Build.renderJson_forgetful _ _) fun found => ?_
      cases found with
      | none => exact .pure _
      | some skeleton => exact .bind (populate_forgetful kind _ skeleton) fun _ => .pure _

/-- From a bench until a draft is finished that is made on another, nothing gets in the way of a search for a snippet;
and no writing fails while the draft is made. -/
def Smooth (g : Generator) (w : Workshop) (kind : ArtifactKind) (start b : Bench) : Prop :=
  w.Quiet start ((g.draft w kind).run b).2 ∧ Unhindered ((g.draft w kind).run b).1

instance (g : Generator) (w : Workshop) (kind : ArtifactKind) (start b : Bench) : Decidable (g.Smooth w kind start b) :=
  inferInstanceAs (Decidable (w.Quiet start ((g.draft w kind).run b).2 ∧ Unhindered ((g.draft w kind).run b).1))

/-- Drafts for process managers that differ in their numbers alone do corresponding steps. -/
theorem draft_byHeading (hregistry : g.registry.BuiltIn) (w w' : Workshop)
    (hmanager : w'.manager.unnumbered = w.manager.unnumbered) (hresource : w'.resource = w.resource)
    (kind : ArtifactKind) : ∃ post, Build.Paired w w' Build.byHeading [] (g.draft w kind) (g.draft w' kind) post :=
  ⟨_, draft_paired (p := Build.byHeading) hregistry (Workshop.counterparts_of_unnumbered_eq (fun _ _ h => h) hmanager)
    (fun f => ⟨rfl, .onDocument f⟩) hresource kind⟩

theorem draft_told (hregistry : g.registry.BuiltIn) (hproper : w.generationPath.IsProper) (kind : ArtifactKind) :
    Build.IsTold (g.draft w kind) := by
  obtain ⟨post, hpaired⟩ := draft_byHeading hregistry w w rfl rfl kind
  exact hpaired.composed_left.told_any hproper fun β x b hx => Build.isTold_of_draftStep hx b

/-- Drafts of two process managers that differ in their numbers alone go in step, whatever was done on either side since
a time when the searches for snippets came to the same. -/
theorem draft_inStep {m m' : ProcessManager} {resource : Option ResourceTemplate} {kind : ArtifactKind}
    {start start' b c : Bench} (hregistry : g.registry.BuiltIn) (hproper : g.generationPath.IsProper)
    (hmanager : m'.unnumbered = m.unnumbered) (hstart : start.disk.WellFormed) (hstart' : start'.disk.WellFormed)
    (hplain : (g.workshop m resource).IsPlain start.disk)
    (hsees : (g.workshop m resource).SeesSame start.disk start'.disk)
    (hb : Told (fun _ => True) start.journal start.disk b.journal b.disk)
    (hc : Told (fun _ => True) start'.journal start'.disk c.journal c.disk)
    (hsmooth : g.Smooth (g.workshop m resource) kind start b)
    (hsmooth' : g.Smooth (g.workshop m' resource) kind start' c) :
    ((g.draft (g.workshop m' resource) kind).run c).1 = ((g.draft (g.workshop m resource) kind).run b).1 ∧
      b.InStep c ((g.draft (g.workshop m resource) kind).run b).2
        ((g.draft (g.workshop m' resource) kind).run c).2 := by
  obtain ⟨hquiet, hr⟩ := hsmooth
  obtain ⟨hquiet', hr'⟩ := hsmooth'
  have hsnippets := ProcessManager.snippets_eq_of_unnumbered_eq hmanager
  have hquiet' : (g.workshop m resource).Quiet start' ((g.draft (g.workshop m' resource) kind).run c).2 :=
    fun s hs => hquiet' s (hsnippets.symm ▸ hs)
  have hrest := draft_told (w := g.workshop m resource) hregistry hproper kind b
  have hrest' := draft_told (w := g.workshop m' resource) hregistry hproper kind c
  obtain ⟨post, hpaired⟩ :=
    draft_byHeading hregistry (g.workshop m resource) (g.workshop m' resource) hmanager rfl kind
  have hgo := hpaired.goInStep hmanager rfl hproper hproper rfl
    (fun x hx => hplain.of_seesSame (hx.seesSame hstart hquiet))
    (fun x y hx hy => ((hx.seesSame hstart hquiet).symm.trans hsees).trans (hy.seesSame hstart' hquiet'))
  -- The documents that the two benches start with may differ, and do not matter.
  obtain ⟨last, hlast⟩ := draft_forgetful kind c b.document
  obtain ⟨hsame, _, hstep⟩ := hgo (Prod.eta _).symm hlast ⟨hb, hrest⟩ ⟨hb.trans hrest, .refl _ _⟩
    ⟨hc, hrest'⟩ ⟨hc.trans hrest', .refl _ _⟩ rfl hr hr'
  exact ⟨hsame, hstep.ids, hstep.issues⟩

/-- Writing takes no number and records no issue. -/
theorem buildArtifact_ids_issues (kind : ArtifactKind) (b : Bench) :
    ((g.buildArtifact w kind).run b).2.ids = ((g.draft w kind).run b).2.ids ∧
      ((g.buildArtifact w kind).run b).2.issues = ((g.draft w kind).run b).2.issues := by
  rw [buildArtifact_run]
  split
  · next hdraft => rw [hdraft]; exact ⟨rfl, rfl⟩
  · next hdraft => rw [hdraft]; exact ⟨rfl, rfl⟩
  · next target document c hdraft =>
      rw [hdraft, writeDocument_run]
      cases c.disk.writeText target (document.text (Layout.ofIndent g.jsonIndent)) with
      | mk result disk => cases result <;> exact ⟨rfl, rfl⟩

/-- Where no writing fails, what comes of the building of a document is what comes of its draft. -/
theorem buildArtifact_of_unhindered {kind : ArtifactKind} {b : Bench}
    (hr : Unhindered ((g.buildArtifact w kind).run b).1) :
    ((g.buildArtifact w kind).run b).1 = ((g.draft w kind).run b).1.map (Option.map Prod.fst) := by
  rw [buildArtifact_run] at hr ⊢
  cases hdraft : (g.draft w kind).run b with
  | mk drafted c =>
      rw [hdraft] at hr
      cases drafted with
      | error f => rfl
      | ok found =>
          cases found with
          | none => rfl
          | some pair =>
              obtain ⟨target, document⟩ := pair
              dsimp only at hr ⊢
              rw [writeDocument_run] at hr ⊢
              cases hwrite : c.disk.writeText target (document.text (Layout.ofIndent g.jsonIndent)) with
              | mk result disk =>
                  rw [hwrite] at hr
                  cases result with
                  | ok => rfl
                  | error e =>
                      rw [hr e rfl] at hwrite
                      exact absurd hwrite Disk.writeText_ne_undecodable

/-- Attempts are made on benches that the building has led to. -/
theorem attempts_since (hregistry : g.registry.BuiltIn) (hproper : g.generationPath.IsProper)
    (hw : w.generationPath = g.generationPath) {flow : Workflow} (hflow : w.manager.workflow = some flow)
    {kinds : List ArtifactKind} {b : Bench} {a : Attempt} (ha : a ∈ g.attempts w kinds b) :
    a.workshop = w ∧ Told (fun _ => True) b.journal b.disk a.before.journal a.before.disk := by
  induction kinds generalizing b with
  | nil => cases ha
  | cons kind rest ih =>
      have htold := terms_told hproper hw (.recovering (buildArtifact_composed hregistry hflow kind)) b
      have hattempt : Build.recovering w (g.buildArtifact w kind) = g.attemptArtifact w kind := rfl
      rw [attempts, List.mem_cons] at ha
      rcases ha with rfl | ha
      · exact ⟨rfl, .refl _ _⟩
      · rw [hattempt] at htold
        split at ha
        · next c hrun =>
            rw [hrun] at htold
            obtain ⟨hworkshop, hlater⟩ := ih ha
            exact ⟨hworkshop, htold.trans hlater⟩
        · cases ha

end Generator

open Build (Unhindered) in
/-- Documents whose snippets are taken as they stand do not depend on numbers. Built from any numbers, and from any
stamps on the workflow and on the bench, a document comes out the same or fails in the same way, with the same issues
and as many numbers taken. Nor does it depend on what was attempted before it. All this holds as far as nothing gets in
the way of the searches for snippets and no writing fails. -/
theorem documents_ignore_numbers (g : Generator) (m m' : ProcessManager) (resource : Option ResourceTemplate)
    (b c : Bench) (hregistry : g.registry.BuiltIn) (hproper : g.generationPath.IsProper)
    (hmanager : m'.unnumbered = m.unnumbered) (hb : b.disk.WellFormed) (hc : c.disk.WellFormed)
    (hplain : (g.workshop m resource).IsPlain b.disk) (hsees : (g.workshop m resource).SeesSame b.disk c.disk) :
    let w := g.workshop m resource
    let w' := g.workshop m' resource
    (∀ kind, g.Smooth w kind b b → g.Smooth w' kind c c →
      ((g.draft w' kind).run c).1 = ((g.draft w kind).run b).1 ∧
      b.InStep c ((g.buildArtifact w kind).run b).2 ((g.buildArtifact w' kind).run c).2 ∧
      (Unhindered ((g.buildArtifact w kind).run b).1 → Unhindered ((g.buildArtifact w' kind).run c).1 →
        ((g.buildArtifact w' kind).run c).1 = ((g.buildArtifact w kind).run b).1)) ∧
    ∀ flow, m.workflow = some flow → ∀ kinds kinds' a a', a ∈ g.attempts w kinds b → a' ∈ g.attempts w' kinds' c →
      a'.kind = a.kind → g.Smooth w a.kind b a.before → g.Smooth w' a.kind c a'.before →
      (a'.drafted g).1 = (a.drafted g).1 ∧ a.before.InStep a'.before (a.drafted g).2 (a'.drafted g).2 := by
  intro w w'
  have hstep {kind : ArtifactKind} {x y : Bench} (hx : Told (fun _ => True) b.journal b.disk x.journal x.disk)
      (hy : Told (fun _ => True) c.journal c.disk y.journal y.disk) (hsmooth : g.Smooth w kind b x)
      (hsmooth' : g.Smooth w' kind c y) :
      ((g.draft w' kind).run y).1 = ((g.draft w kind).run x).1 ∧
        x.InStep y ((g.draft w kind).run x).2 ((g.draft w' kind).run y).2 :=
    Generator.draft_inStep hregistry hproper hmanager hb hc hplain hsees hx hy hsmooth hsmooth'
  constructor
  · intro kind hsmooth hsmooth'
    obtain ⟨hsame, hids, hissues⟩ := hstep (.refl _ _) (.refl _ _) hsmooth hsmooth'
    obtain ⟨hown, howned⟩ := Generator.buildArtifact_ids_issues (g := g) (w := w) kind b
    obtain ⟨hown', howned'⟩ := Generator.buildArtifact_ids_issues (g := g) (w := w') kind c
    refine ⟨hsame, ⟨?_, ?_⟩, fun hr hr' => ?_⟩
    · rw [hown, hown', hids]
    · rw [howned, howned']
      exact hissues
    · rw [Generator.buildArtifact_of_unhindered hr, Generator.buildArtifact_of_unhindered hr', hsame]
  · intro flow hflow kinds kinds' a a' ha ha' hkind hsmooth hsmooth'
    have hworkflow := ProcessManager.workflow_eq_of_unnumbered_eq hmanager
    rw [hflow] at hworkflow
    obtain ⟨flow', hflow', _⟩ := Option.map_eq_some_iff.mp hworkflow
    obtain ⟨hworkshop, hbefore⟩ := Generator.attempts_since (w := w) hregistry hproper rfl hflow ha
    obtain ⟨hworkshop', hbefore'⟩ := Generator.attempts_since (w := w') hregistry hproper rfl hflow' ha'
    unfold Attempt.drafted
    rw [hworkshop, hworkshop', hkind]
    exact hstep hbefore hbefore' hsmooth hsmooth'

/-- A bench with a number to go on from. -/
def benchFrom (ids : Int) (disk : Disk) : Bench := ⟨.null, ids, [], [], .empty, disk⟩

/-- A process manager that keeps the texts of both its skeletons, with a stamp on its workflow. -/
def stampedManager (id : Int) : ProcessManager :=
  let m := smallManager "pm" "flow"
    [(.connections, "conn.json", some "debug", "c.json"), (.appSettings, "app.json", some "debug", "a.json")]
  { m with workflow := m.workflow.map fun flow => { flow with element := flow.element.stamp id } }

def stampedWorkshop (id : Int) : Workshop :=
  smallGenerator.workshop (stampedManager id) ((stampedManager 0).findResource Snippet.standardFamily)

def stampedBench : Bench := { benchFrom 7 invalidDisk with stamps := [(.workflow, 5)] }

/-- What comes of the first of the two documents. -/
def stampedFirst : Except Fault (Option Path) × Bench :=
  (smallGenerator.attemptArtifact (stampedWorkshop 3) .connections).run (benchFrom 0 invalidDisk)

/-- A skeleton that is no JSON fails alike from different numbers, and the document after it is the same as if it had
come first. -/
theorem documents_ignore_numbers_stamped :
    ((smallGenerator.draft (stampedWorkshop 8) .connections).run stampedBench).1 =
        ((smallGenerator.draft (stampedWorkshop 3) .connections).run (benchFrom 0 invalidDisk)).1 ∧
      ∃ a ∈ smallGenerator.attempts (stampedWorkshop 3) [.connections, .appSettings] (benchFrom 0 invalidDisk),
        ∃ a' ∈ smallGenerator.attempts (stampedWorkshop 8) [.appSettings] stampedBench,
          (a.before.ids = 1 ∧ a'.before.ids = 7 ∧ a.written smallGenerator = some ⟨0, ["generated", "a.json"]⟩) ∧
          (a'.drafted smallGenerator).1 = (a.drafted smallGenerator).1 ∧
          a.before.InStep a'.before (a.drafted smallGenerator).2 (a'.drafted smallGenerator).2 := by
  have hplain : (stampedWorkshop 3).IsPlain invalidDisk := by decide +kernel
  have hwell : invalidDisk.WellFormed := .of_entries rfl (by decide)
  have hfirst : smallGenerator.Smooth (stampedWorkshop 3) .connections (benchFrom 0 invalidDisk)
        (benchFrom 0 invalidDisk) ∧
      smallGenerator.Smooth (stampedWorkshop 8) .connections stampedBench stampedBench := by
    decide +kernel
  have hattempt : (stampedFirst.1 = .ok none ∧ stampedFirst.2.ids = 1 ∧
        Attempt.written smallGenerator ⟨stampedWorkshop 3, .appSettings, stampedFirst.2⟩ =
          some ⟨0, ["generated", "a.json"]⟩) ∧
      smallGenerator.Smooth (stampedWorkshop 3) .appSettings (benchFrom 0 invalidDisk) stampedFirst.2 ∧
      smallGenerator.Smooth (stampedWorkshop 8) .appSettings stampedBench stampedBench := by
    decide +kernel
  obtain ⟨⟨hok, hids, hwritten⟩, hsmooth, hsmooth'⟩ := hattempt
  obtain ⟨hsame, hlater⟩ := documents_ignore_numbers smallGenerator (stampedManager 3) (stampedManager 8)
    ((stampedManager 0).findResource Snippet.standardFamily) (benchFrom 0 invalidDisk) stampedBench
    Registry.standard_builtIn (Path.isProper_ofText _) rfl hwell hwell hplain (.refl _ _)
  have hmem : ⟨stampedWorkshop 3, .appSettings, stampedFirst.2⟩ ∈
      smallGenerator.attempts (stampedWorkshop 3) [.connections, .appSettings] (benchFrom 0 invalidDisk) := by
    have hrun : (smallGenerator.attemptArtifact (stampedWorkshop 3) .connections).run (benchFrom 0 invalidDisk) =
        (.ok none, stampedFirst.2) := Prod.ext hok rfl
    rw [Generator.attempts, hrun]
    exact List.mem_cons_of_mem _ List.mem_cons_self
  have hmem' : ⟨stampedWorkshop 8, .appSettings, stampedBench⟩ ∈
      smallGenerator.attempts (stampedWorkshop 8) [.appSettings] stampedBench := List.mem_cons_self
  exact ⟨(hsame .connections hfirst.1 hfirst.2).1, _, hmem, _, hmem', ⟨hids, rfl, hwritten⟩,
    hlater _ rfl _ _ _ _ hmem hmem' rfl hsmooth hsmooth'⟩

/-- A process manager whose one document has its skeleton kept, in a directory. -/
def blockedManager : ProcessManager := smallManager "pm" "flow" [(.appSettings, "app.json", some "debug", "a.json")]

/-- A disk on which the name that the second rendering would keep its text under is taken by a directory. -/
def blockedDisk : Disk :=
  let d := smallDisk [("app.json", .text "\x7b\x7d")]
  { d with
    entries := d.entries ++ [(["generated"], .directory), (["generated", "debug"], .directory),
      (["generated", "debug", "2.flow.app.json"], .directory)] }

def blockedBuilding (ids : Int) : Except Fault (Option Path) × Bench :=
  (smallGenerator.buildArtifact (smallGenerator.ownWorkshop blockedManager) .appSettings).run
    (benchFrom ids blockedDisk)

/-- A generator that looks for templates on a way through the directory that the first rendering makes for its text. -/
def wayGenerator : Generator :=
  { smallGenerator with templatePaths := [.ofText "templates", .ofText "generated/debug/1.a/../../../more"] }

/-- A document with parameters from a snippet, for an element with a slash in its name. -/
def wayManager : ProcessManager :=
  let m := smallManager "pm" "a/b" [(.parameters, "p.json", some "debug", "p.json")]
  { m with snippets := m.snippets ++ [⟨Snippet.parameterKey, "q.json", none⟩] }

def wayDisk : Disk :=
  let d := smallDisk [("p.json", .text "\x7b\x7d")]
  { d with
    entries := d.entries ++ [(["more"], .directory), (["more", "q.json"], .file (.text "\x7b\"x\": 1\x7d"))] }

def wayBuilding (ids : Int) : Except Fault (Option Path) × Bench :=
  (wayGenerator.buildArtifact (wayGenerator.ownWorkshop wayManager) .parameters).run (benchFrom ids wayDisk)

/-- A generator that looks for templates among the documents. -/
def loopGenerator : Generator := { smallGenerator with templatePaths := [.ofText "templates", .ofText "generated"] }

/-- A process manager of which one document is written where the skeleton of another is looked for. -/
def loopManager : ProcessManager :=
  smallManager "pm" "flow" [(.connections, "conn.json", none, "app.json"), (.appSettings, "app.json", none, "a.json")]

def loopBuilding (kinds : List ArtifactKind) : Except Fault (List Path) × Bench :=
  (loopGenerator.buildArtifacts (loopGenerator.ownWorkshop loopManager) kinds).run
    (benchFrom 0 (smallDisk [("conn.json", .text "\x7b\x7d")]))

/-- No file was written where a snippet is looked for. -/
def KeepsOff (w : Workshop) (b : Bench) : Prop :=
  ∀ p ∈ writtenFiles b.journal.events, ∀ s ∈ w.manager.snippets,
    ∀ q ∈ Snippet.candidates w.templatePaths s.templateFile, b.disk.place p ≠ b.disk.place q

instance (w : Workshop) (b : Bench) : Decidable (KeepsOff w b) :=
  inferInstanceAs (Decidable (∀ p ∈ writtenFiles b.journal.events, ∀ s ∈ w.manager.snippets,
    ∀ q ∈ Snippet.candidates w.templatePaths s.templateFile, b.disk.place p ≠ b.disk.place q))

/-- Three ways in which numbers and earlier documents show. The name for a text that is kept depends on the number, and
may be taken. The directory that is made for it may open a way to a snippet. And a document may be written where a
snippet is looked for. -/
theorem numbers_name_kept_texts :
    ((∀ ids ∈ [0, 1], (smallGenerator.ownWorkshop blockedManager).IsPlain blockedDisk ∧
        KeepsOff (smallGenerator.ownWorkshop blockedManager) (blockedBuilding ids).2) ∧
      (blockedBuilding 0).1 = .ok (some ⟨0, ["generated", "a.json"]⟩) ∧
      (blockedBuilding 1).1 = .error (.disk .isDirectory)) ∧
    ((∀ ids ∈ [0, 1], (wayGenerator.ownWorkshop wayManager).IsPlain (wayBuilding ids).2.disk ∧
        KeepsOff (wayGenerator.ownWorkshop wayManager) (wayBuilding ids).2) ∧
      ((wayBuilding 0).2.issues.map Issue.kind = [] ∧
        (wayBuilding 0).2.disk.fileAt? ["generated", "p.json"] = some (.text "\x7b\"x\": 1\x7d")) ∧
      (wayBuilding 1).2.issues.map Issue.kind = [.missingSnippet] ∧
        (wayBuilding 1).2.disk.fileAt? ["generated", "p.json"] = some (.text "\x7b\x7d")) ∧
    (loopGenerator.ownWorkshop loopManager).IsPlain (loopBuilding ArtifactKind.all).2.disk ∧
      (loopBuilding ArtifactKind.all).1 = .ok [⟨0, ["generated", "app.json"]⟩, ⟨0, ["generated", "a.json"]⟩] ∧
      (loopBuilding [.appSettings]).1 = .ok [] := by
  refine ⟨?_, ?_, ?_⟩
  all_goals decide +kernel

end WorkflowForge
