import WorkflowForge.Proofs.Assembly.DeclarationOrder
import WorkflowForge.Proofs.Assembly.Surfacing
import WorkflowForge.Proofs.Generation.Noninterference

/-!
A container that is skipped takes its whole tree with it. Nothing below it is rendered, and where no snippet is a
template it does not matter what is below it: with other activities it is skipped again, and everything that is
assembled before and after it comes out the same, in whichever tree it stands and whatever the reason was.

Two assemblies are compared that differ in what the elements hold, and in the model that the process manager knows. They
come to the same in all but the journal, because without templates a rendering sees no more of an element than where it
stands, its name and its type.
-/

namespace WorkflowForge

namespace Workshop

/-- No snippet is a template, on whichever of the template paths its file may be. -/
def Untemplated (w : Workshop) : Prop :=
  ∀ s ∈ w.manager.snippets, ∀ q ∈ Snippet.candidates w.templatePaths s.templateFile,
    Snippet.isTemplate w.suffixes q = false

instance (w : Workshop) : Decidable w.Untemplated :=
  inferInstanceAs (Decidable (∀ s ∈ w.manager.snippets, ∀ q ∈ Snippet.candidates w.templatePaths s.templateFile,
    Snippet.isTemplate w.suffixes q = false))

theorem Untemplated.isPlain {w : Workshop} (h : w.Untemplated) (d : Disk) : w.IsPlain d :=
  fun s hs source hfind => h s hs source (List.mem_of_find?_eq_some hfind)

/-- The workshop with another model in its process manager. -/
def withModel (w : Workshop) (model : Option Workflow) : Workshop :=
  { w with manager := { w.manager with workflow := model } }

theorem snippets_withModel (w : Workshop) (model : Option Workflow) :
    (w.withModel model).manager.snippets = w.manager.snippets := rfl

end Workshop

/-- Two benches that are the same but for their journals. -/
structure Bench.Agree (b c : Bench) : Prop where
  document : c.document = b.document
  ids : c.ids = b.ids
  stamps : c.stamps = b.stamps
  issues : c.issues = b.issues
  disk : c.disk = b.disk

theorem Bench.Agree.refl (b : Bench) : b.Agree b := ⟨rfl, rfl, rfl, rfl, rfl⟩

/-- What a rendering without templates sees of an element. -/
def Item.tag (i : Item) : Place × String × String := (i.place, i.heading)

namespace Build

/-- Elements of which a rendering without templates sees the same. -/
def byTag : Pairing where
  renders item item' := item'.map Item.tag = item.map Item.tag
  further _ _ _ := False
  name_eq h := congrArg (fun tag => tag.2.1) (Option.some.inj h)
  type_eq h := congrArg (fun tag => tag.2.2) (Option.some.inj h)

theorem byTag_cases {item item' : Option Item} (h : byTag.renders item item') :
    item = none ∧ item' = none ∨ ∃ i i', item = some i ∧ item' = some i' ∧ i'.tag = i.tag := by
  cases item with
  | none => exact .inl ⟨rfl, Option.map_eq_none_iff.mp h⟩
  | some i =>
      obtain ⟨i', hi', htag⟩ := Option.map_eq_some_iff.mp h
      exact .inr ⟨i, i', rfl, hi', htag⟩

section Agreement

variable {α β : Type}

/-- Two outcomes that are the same but for the journals. -/
def EndsAgree (first second : Except Fault α × Bench) : Prop := second.1 = first.1 ∧ first.2.Agree second.2

/-- Two builds that end alike from benches that are alike. -/
def RunsAgree (x x' : Build α) : Prop := ∀ ⦃b c : Bench⦄, b.Agree c → EndsAgree (x.run b) (x'.run c)

theorem EndsAgree.bind {x x' : Build α} {f f' : α → Build β} {b c : Bench} (hx : EndsAgree (x.run b) (x'.run c))
    (hf : ∀ a d d', x.run b = (.ok a, d) → d.Agree d' → EndsAgree ((f a).run d) ((f' a).run d')) :
    EndsAgree ((x >>= f).run b) ((x' >>= f').run c) := by
  obtain ⟨hresult, hlike⟩ := hx
  rw [run_bind, run_bind]
  cases hrun : x.run b with
  | mk r d =>
  cases hrun' : x'.run c with
  | mk r' d' =>
      rw [hrun, hrun'] at hresult hlike
      cases hresult
      cases r with
      | error e => exact ⟨rfl, hlike⟩
      | ok a => exact hf a d d' hrun hlike

theorem RunsAgree.done (a : α) : RunsAgree (Pure.pure a : Build α) (Pure.pure a) := fun _ _ h => ⟨rfl, h⟩

theorem RunsAgree.bind {x x' : Build α} {f f' : α → Build β} (hx : RunsAgree x x') (hf : ∀ a, RunsAgree (f a) (f' a)) :
    RunsAgree (x >>= f) (x' >>= f') :=
  fun _ _ h => .bind (hx h) fun a _ _ _ hlike => hf a hlike

theorem RunsAgree.debug (logger name : String) (fields fields' : Fields) :
    RunsAgree (Build.debug logger name fields) (Build.debug logger name fields') :=
  fun _ _ h => ⟨rfl, h.document, h.ids, h.stamps, h.issues, h.disk⟩

end Agreement

section Comparison

variable {w : Workshop} {model : Option Workflow} {within : List String} {α : Type}

/-- A rendering of a snippet that is no template comes to the same for elements of which it sees the same. -/
theorem renderJson_runsAgree (h : w.Untemplated) {snippet : Snippet} (hsnippet : snippet ∈ w.manager.snippets)
    {item item' : Option Item} (hitem : byTag.renders item item') :
    RunsAgree (renderJson w item snippet true) (renderJson (w.withModel model) item' snippet true) := by
  intro b c hlike
  have hnumbered : (numbered item b).Agree (numbered item' c) := by
    refine ⟨hlike.document, congrArg (· + 1) hlike.ids, ?_, hlike.issues, hlike.disk⟩
    rcases byTag_cases hitem with ⟨rfl, rfl⟩ | ⟨i, i', rfl, rfl, htag⟩
    · exact hlike.stamps
    · have hplace : i'.place = i.place := congrArg Prod.fst htag
      simp only [numbered, hplace, hlike.ids, hlike.stamps]
  have htarget (source : Path) : nextTarget (w.withModel model) item' snippet source c =
      nextTarget w item snippet source b := by
    unfold nextTarget inspectionPath
    rw [hlike.ids]
    rcases byTag_cases hitem with ⟨rfl, rfl⟩ | ⟨i, i', rfl, rfl, _⟩
    · rfl
    · dsimp only
      rw [byTag.name_eq hitem]
      rfl
  have hsource : Snippet.findFile (w.withModel model).templatePaths c.disk snippet.templateFile =
      Snippet.findFile w.templatePaths b.disk snippet.templateFile := by
    rw [hlike.disk]
    rfl
  rw [renderJson_run, renderJson_run, hsource]
  cases hfind : Snippet.findFile w.templatePaths b.disk snippet.templateFile with
  | none =>
      refine ⟨rfl, hnumbered.document, hnumbered.ids, hnumbered.stamps, ?_, hnumbered.disk⟩
      exact congrArg (· ++ [missing w snippet]) hnumbered.issues
  | some source =>
      have htext : textOf (w.withModel model) item' snippet source (numbered item' c) =
          textOf w item snippet source (numbered item b) := by
        have hplain := h.isPlain b.disk snippet hsnippet source hfind
        have hplain' : Snippet.isTemplate (w.withModel model).suffixes source = false := hplain
        rw [textOf, textOf, hplain, hplain', hnumbered.disk]
        rfl
      dsimp only
      rw [htext, htarget]
      cases textOf w item snippet source (numbered item b) with
      | error f => exact ⟨rfl, hnumbered.document, hnumbered.ids, hnumbered.stamps, hnumbered.issues, hnumbered.disk⟩
      | ok text =>
          dsimp only
          split
          · exact ⟨rfl, hnumbered.document, hnumbered.ids, hnumbered.stamps, hnumbered.issues, hnumbered.disk⟩
          · have hkeep : keep (Snippet.isTemplate (w.withModel model).suffixes source) source
                  (nextTarget w item snippet source b) text c.disk =
                keep (Snippet.isTemplate w.suffixes source) source (nextTarget w item snippet source b) text
                  b.disk := by
              rw [hlike.disk]
              rfl
            rw [hkeep]
            cases keep (Snippet.isTemplate w.suffixes source) source (nextTarget w item snippet source b) text
                b.disk with
            | mk result disk =>
                cases result with
                | ok => exact ⟨rfl, hnumbered.document, hnumbered.ids, hnumbered.stamps, hnumbered.issues, rfl⟩
                | error e => exact ⟨rfl, hnumbered.document, hnumbered.ids, hnumbered.stamps, hnumbered.issues, rfl⟩

/-- Builds that do corresponding steps end alike. -/
theorem Paired.runsAgree (h : w.Untemplated) {x x' : Build α} {post : α → Prop}
    (hx : Paired w (w.withModel model) byTag within x x' post) : RunsAgree x x' := by
  induction hx with
  | pure _ => exact .done _
  | bind hx _ ihx ihf => exact fun b c hlike => .bind (ihx hlike) fun a d d' hrun hafter => ihf a (hx.post hrun) hafter
  | document =>
      intro b c hlike
      exact ⟨congrArg Except.ok hlike.document, hlike⟩
  | log level logger name fields fields' _ =>
      exact fun b c hlike => ⟨rfl, hlike.document, hlike.ids, hlike.stamps, hlike.issues, hlike.disk⟩
  | record kind message path _ =>
      intro b c hlike
      refine ⟨rfl, hlike.document, hlike.ids, hlike.stamps, ?_, hlike.disk⟩
      exact congrArg (· ++ [⟨kind, w.manager.name, message, path⟩]) hlike.issues
  | add s _ name body =>
      intro b c hlike
      rw [add_run_eq, add_run_eq, hlike.document]
      exact ⟨rfl, rfl, hlike.ids, hlike.stamps, hlike.issues, hlike.disk⟩
  | renderJson item item' snippet hsnippet hitem => exact renderJson_runsAgree h hsnippet hitem
  | further hnone => exact absurd hnone id

theorem opening_runsAgree (h : w.Untemplated) {item item' : Item} (hitem : byTag.on item item') (parent : Scope) :
    RunsAgree (opening w item parent) (opening (w.withModel model) item' parent) := by
  unfold opening
  rw [byTag.type_eq hitem]
  split
  · exact (openBranch_paired (w.snippets_withModel model) hitem parent (List.prefix_refl _)).runsAgree h
  · exact (openContainer_paired (w.snippets_withModel model) hitem parent (List.prefix_refl _)).runsAgree h

theorem stock_runsAgree (h : w.Untemplated) {item item' : Item} (hitem : byTag.on item item') (scope : Scope) :
    RunsAgree (stock w item scope) (stock (w.withModel model) item' scope) := by
  have hprebuilt : RunsAgree (prebuiltContributions w item scope)
      (prebuiltContributions (w.withModel model) item' scope) :=
    (prebuiltContributions_paired (w.snippets_withModel model) hitem scope (List.prefix_refl _)).runsAgree h
  refine .bind (.bind hprebuilt fun _ => .done _) fun count => ?_
  split
  · exact .debug _ _ _ _
  · exact .done _

theorem assembleActivities_runsAgree (h : w.Untemplated) (place : Place) (scope : Scope) (index : Nat)
    (activities : List Activity) :
    RunsAgree (assembleActivities w .standard place scope index activities)
      (assembleActivities (w.withModel model) .standard place scope index activities) :=
  (assembleActivities_paired Registry.standard_builtIn (w.snippets_withModel model) place scope (List.prefix_refl _)
    index activities activities
    (Activity.correspondIn_self place index activities fun _ _ _ _ _ _ => rfl)).runsAgree h

theorem assembleActivity_runsAgree (h : w.Untemplated) (place : Place) (scope : Scope) (a : Activity) :
    RunsAgree (assembleActivity w .standard place scope a)
      (assembleActivity (w.withModel model) .standard place scope a) :=
  (assembleActivity_paired Registry.standard_builtIn (w.snippets_withModel model) place scope (List.prefix_refl _) a a
    (Activity.corresponds_self place a fun _ _ _ => rfl)).runsAgree h

end Comparison

/-- The assembly of a container with its activities. -/
abbrev assembleWith (w : Workshop) (item : Item) (parent : Scope) (activities : List Activity) : Build Bool :=
  assembleContainer w .standard item parent fun scope => assembleActivities w .standard item.place scope 0 activities

/-- Whether the container that is reached from another by a path of indices is skipped when its turn comes. -/
def skips (w : Workshop) (item : Item) (parent : Scope) (b : Bench) (activities : List Activity) : List Nat → Bool
  | [] =>
    match (assembleWith w item parent activities).run b with
    | (.ok converted, _) => !converted
    | (.error _, _) => false
  | index :: path =>
    match (opening w item parent).run b with
    | (.ok ⟨_, some scope⟩, o) =>
      match (arrivals w item.place scope 0 ((stock w item scope).run o).2 activities)[index]? with
      | some t => t.activity.isContainer && skips w t.item scope t.bench t.activity.children path
      | none => false
    | _ => false

end Build

/-- The activities of a container after those of the container that is reached by a path were replaced by others. -/
def Activity.replaceIn (other : List Activity) : List Nat → List Activity → List Activity
  | [], _ => other
  | index :: path, activities => activities.modify index fun
    | .leaf e => .leaf e
    | .container e inner vars messages => .container e (replaceIn other path inner) vars messages

namespace Build

section Replacement

variable {w : Workshop} {model : Option Workflow}

theorem skips_nil_iff {item : Item} {parent : Scope} {b : Bench} {activities : List Activity} :
    skips w item parent b activities [] = true ↔
      ∃ c, (assembleWith w item parent activities).run b = (.ok false, c) := by
  rw [skips]
  cases (assembleWith w item parent activities).run b with
  | mk r c =>
      rcases r with f | _ | _
      · exact ⟨fun h => (by cases h), fun ⟨_, h⟩ => by cases h⟩
      · exact ⟨fun _ => ⟨c, rfl⟩, fun _ => rfl⟩
      · exact ⟨fun h => (by cases h), fun ⟨_, h⟩ => by cases h⟩

theorem skips_cons {item : Item} {parent : Scope} {b : Bench} {activities : List Activity} {index : Nat}
    {path : List Nat} (h : skips w item parent b activities (index :: path) = true) :
    ∃ own scope o t, (opening w item parent).run b = (.ok ⟨own, some scope⟩, o) ∧
      (arrivals w item.place scope 0 ((stock w item scope).run o).2 activities)[index]? = some t ∧
      t.activity.isContainer = true ∧ skips w t.item scope t.bench t.activity.children path = true := by
  rw [skips] at h
  split at h
  · next own scope o hopening =>
      split at h
      · next t ht =>
          rw [Bool.and_eq_true] at h
          exact ⟨own, scope, o, t, hopening, ht, h⟩
      · cases h
  · cases h

/-- A container that is skipped is converted without opening a place for its children, and that is all. -/
theorem assembleWith_skipped {item : Item} {parent : Scope} {activities : List Activity} {b c : Bench}
    (hskipped : (assembleWith w item parent activities).run b = (.ok false, c)) :
    ∃ own o, (opening w item parent).run b = (.ok ⟨own, none⟩, o) ∧ o.Agree c := by
  have hstages := hskipped
  rw [assembleWith, assembleContainer_stock] at hstages
  obtain ⟨⟨own, _ | scope⟩, o, hopening, hlast⟩ := run_bind_ok hstages
  · obtain ⟨_, d, hdebug, hlast⟩ := run_bind_ok hlast
    cases hdebug
    cases hlast
    exact ⟨own, o, hopening, rfl, rfl, rfl, rfl, rfl⟩
  · have hconverted : false = true := (assembleContainer_run hopening hskipped).1
    cases hconverted

/-- A container that is skipped is skipped with whatever in it. -/
theorem assembleWith_skipped_endsAgree (h : w.Untemplated) {item item' : Item} (hitem : byTag.on item item')
    {parent : Scope} {activities : List Activity} (other : List Activity) {b c d : Bench} (hlike : b.Agree c)
    (hskipped : (assembleWith w item parent activities).run b = (.ok false, d)) :
    EndsAgree ((assembleWith w item parent activities).run b)
      ((assembleWith (w.withModel model) item' parent other).run c) := by
  obtain ⟨own, o, hopening, _⟩ := assembleWith_skipped hskipped
  rw [assembleWith, assembleContainer_stock, assembleWith, assembleContainer_stock]
  refine .bind (opening_runsAgree h hitem parent hlike) fun o' e e' hopening' hafter => ?_
  cases hopening.symm.trans hopening'
  exact RunsAgree.bind (.debug _ _ _ _) (fun _ => .done _) hafter

theorem EndsAgree.exists_run {α : Type} {x : Build α} {first : Except Fault α × Bench} {b : Bench}
    (h : EndsAgree first (x.run b)) : ∃ c, x.run b = (first.1, c) ∧ first.2.Agree c :=
  ⟨(x.run b).2, Prod.ext h.1 rfl, h.2⟩

/-- If the assembly of one child comes out the same with a change to the child, so does that of all children. -/
theorem assembleActivities_modify_endsAgree (h : w.Untemplated) {place : Place} {scope : Scope} {start index : Nat}
    {activities : List Activity} (change : Activity → Activity) {t : Arrival} {b c : Bench} (hlike : b.Agree c)
    (ht : (arrivals w place scope start b activities)[index]? = some t)
    (hchange : ∀ ⦃d⦄, t.bench.Agree d →
      EndsAgree ((assembleActivity w .standard t.place scope t.activity).run t.bench)
        ((assembleActivity (w.withModel model) .standard t.place scope (change t.activity)).run d)) :
    EndsAgree ((assembleActivities w .standard place scope start activities).run b)
      ((assembleActivities (w.withModel model) .standard place scope start
        (activities.modify index change)).run c) := by
  induction activities generalizing start index b c with
  | nil => cases ht
  | cons a rest ih =>
      cases index with
      | zero =>
          obtain rfl : ⟨place.child start, a, b⟩ = t := Option.some.inj ht
          rw [List.modify_zero_cons, assembleActivities, assembleActivities]
          refine .bind (.bind (hchange hlike) fun _ _ _ _ hafter => ⟨rfl, hafter⟩) fun _ d d' _ hafter => ?_
          exact assembleActivities_runsAgree h place scope (start + 1) rest hafter
      | succ index =>
          rw [List.modify_succ_cons, assembleActivities, assembleActivities]
          have hfirst : EndsAgree ((assembleActivity w .standard (place.child start) scope a).run b)
              ((assembleActivity (w.withModel model) .standard (place.child start) scope a).run c) :=
            assembleActivity_runsAgree h (place.child start) scope a hlike
          refine .bind (.bind hfirst fun _ _ _ _ hafter => ⟨rfl, hafter⟩) fun _ d d' hrun hafter => ?_
          refine ih hafter ?_
          rw [arrivals, List.getElem?_cons_succ] at ht
          obtain ⟨_, _, hrun, hdone⟩ := run_bind_ok hrun
          cases hdone
          rwa [hrun] at ht

/-- The assembly of a container comes out the same when the activities of a container that is skipped on the way are
replaced by others. -/
theorem assembleWith_replaceIn_endsAgree (h : w.Untemplated) (other : List Activity) {item item' : Item}
    (hitem : byTag.on item item') {parent : Scope} {activities : List Activity} {path : List Nat} {b c : Bench}
    (hlike : b.Agree c) (hskips : skips w item parent b activities path = true) :
    EndsAgree ((assembleWith w item parent activities).run b)
      ((assembleWith (w.withModel model) item' parent (Activity.replaceIn other path activities)).run c) := by
  induction path generalizing item item' parent activities b c with
  | nil =>
      obtain ⟨d, hskipped⟩ := skips_nil_iff.mp hskips
      exact assembleWith_skipped_endsAgree h hitem other hlike hskipped
  | cons index path ih =>
      obtain ⟨own, scope, o, t, hopening, ht, hcontainer, hskips⟩ := skips_cons hskips
      have hplace : item'.place = item.place := congrArg Prod.fst (Option.some.inj hitem)
      rw [assembleWith, assembleContainer_stock, assembleWith, assembleContainer_stock, hplace]
      refine .bind (opening_runsAgree h hitem parent hlike) fun o' d d' hopening' hafter => ?_
      cases hopening.symm.trans hopening'
      refine .bind (stock_runsAgree h hitem scope hafter) fun _ e e' hstock hstocked => ?_
      rw [hstock] at ht
      refine .bind ?_ fun _ _ _ _ hlast => ⟨rfl, hlast⟩
      refine assembleActivities_modify_endsAgree h _ hstocked ht fun f hbench => ?_
      obtain ⟨place, a, bench⟩ := t
      cases a with
      | leaf e => cases hcontainer
      | container e inner vars messages =>
          have htag : byTag.on (.ofActivity place (.container e inner vars messages))
              (.ofActivity place (.container e (Activity.replaceIn other path inner) vars messages)) := rfl
          rw [assembleActivity, assembleActivity]
          exact ih htag hbench hskips

end Replacement

end Build

/-- From one bench to another one number was taken at most, and it was put on nothing but what is at a place. -/
structure Bench.NumbersOne (place : Place) (b c : Bench) : Prop where
  ids : c.ids = b.ids ∨ c.ids = b.ids + 1
  stamps : ∀ other, other ≠ place → c.stamps.lookup other = b.stamps.lookup other

namespace Build

section Numbers

variable {w : Workshop} {place : Place} {α β : Type}

/-- A build that renders one thing at most, and that at a place. -/
def RendersOne (place : Place) (x : Build α) : Prop := ∀ b : Bench, b.NumbersOne place (x.run b).2

namespace RendersOne

theorem of_nothing {x : Build α} (h : RendersNothing x) : RendersOne place x :=
  fun b => ⟨.inl (h b).ids, fun _ _ => by rw [(h b).stamps]⟩

theorem after {x : Build α} {f : α → Build β} (hx : RendersNothing x) (hf : ∀ a, RendersOne place (f a)) :
    RendersOne place (x >>= f) := by
  intro b
  have hfirst := hx b
  rw [run_bind]
  cases hrun : x.run b with
  | mk r c =>
      rw [hrun] at hfirst
      cases r with
      | error e => exact ⟨.inl hfirst.ids, fun _ _ => by rw [hfirst.stamps]⟩
      | ok a =>
          have hrest := hf a c
          exact ⟨hfirst.ids ▸ hrest.ids, hfirst.stamps ▸ hrest.stamps⟩

theorem before {x : Build α} {f : α → Build β} (hx : RendersOne place x) (hf : ∀ a, RendersNothing (f a)) :
    RendersOne place (x >>= f) := by
  intro b
  have hfirst := hx b
  rw [run_bind]
  cases hrun : x.run b with
  | mk r c =>
      rw [hrun] at hfirst
      cases r with
      | error e => exact hfirst
      | ok a =>
          have hrest := hf a c
          exact ⟨hrest.ids ▸ hfirst.ids, hrest.stamps ▸ hfirst.stamps⟩

theorem renderJson (item : Item) (snippet : Snippet) :
    RendersOne item.place (Build.renderJson w (some item) snippet true) := by
  intro b
  have hnumbered : b.NumbersOne item.place (numbered (some item) b) := by
    refine ⟨.inr rfl, fun other hother => ?_⟩
    have hne : (other == item.place) = false := by simpa using hother
    simp only [numbered, List.lookup_cons, hne]
  rw [renderJson_run]
  split
  · exact ⟨hnumbered.ids, hnumbered.stamps⟩
  · split
    · exact ⟨hnumbered.ids, hnumbered.stamps⟩
    · split
      · exact ⟨hnumbered.ids, hnumbered.stamps⟩
      · split <;> exact ⟨hnumbered.ids, hnumbered.stamps⟩

theorem renderContainer (item : Item) : RendersOne item.place (Build.renderContainer w item) := by
  refine after (RendersNothing.resolve _ _) fun found => ?_
  cases found with
  | none => exact of_nothing (.done _)
  | some snippet =>
      refine before (before (renderJson item snippet) fun _ => .done _) fun payload => ?_
      split
      · exact .bind (.debug _ _ _) fun _ => .done _
      · exact .done _

end RendersOne

theorem RendersNothing.locateElse (switch : Scope) (name : String) :
    RendersNothing (Build.locateElse w switch name) := by
  refine bind get fun b => ?_
  split
  · exact done _
  · exact bind (record _ _ _) fun _ => done _

theorem RendersNothing.openCase (item : Item) (payload : Payload) (switch : Scope) (name : String)
    (first : String × Json) : RendersNothing (Build.openCase w item payload switch name first) := by
  refine bind get fun b => ?_
  split
  · exact bind (record _ _ _) fun _ => done _
  · refine bind (add _ _ _) fun added => ?_
    cases added with
    | true => exact bind (debug _ _ _) fun _ => bind (locateChildren _ _ _) fun _ => done _
    | false => exact bind (warning _ _ _) fun _ => bind (locateChildren _ _ _) fun _ => done _

/-- The conversion of a container renders the container at most. -/
theorem RendersOne.opening (item : Item) (parent : Scope) : RendersOne item.place (Build.opening w item parent) := by
  unfold Build.opening
  split
  · refine after (.debug _ _ _) fun _ => before (renderContainer item) fun payload => ?_
    split
    · exact .done _
    · split
      · exact .done _
      · refine .bind .get fun b => ?_
        split
        · split
          · exact .bind (.locateElse _ _) fun _ => .done _
          · exact .openCase _ _ _ _ _
        · exact .bind (.record _ _ _) fun _ => .done _
  · refine after (.debug _ _ _) fun _ => before (renderContainer item) fun payload => ?_
    split
    · exact .done _
    · split
      · exact .done _
      · exact .bind (.insertActions _ _ _) fun _ => .bind (.locateChildren _ _ _) fun _ => .done _

/-- Nothing in a container that is skipped is rendered. -/
theorem assembleWith_skipped_numbersOne {item : Item} {parent : Scope} {activities : List Activity} {b c : Bench}
    (hskipped : (assembleWith w item parent activities).run b = (.ok false, c)) : b.NumbersOne item.place c := by
  obtain ⟨own, o, hopening, hlike⟩ := assembleWith_skipped hskipped
  have hnumbers := RendersOne.opening (w := w) item parent b
  rw [hopening] at hnumbers
  exact ⟨hlike.ids ▸ hnumbers.ids, hlike.stamps ▸ hnumbers.stamps⟩

end Numbers

end Build

namespace Stamps

variable {s s' : Stamps}

theorem on_congr {place : Place} (h : s'.lookup place = s.lookup place) (e : Element) :
    s'.on place e = s.on place e := by
  rw [on, on, h]

mutual

/-- How an activity is stamped depends on the stamps at its place and below. -/
theorem onActivity_congr (place : Place) : (a : Activity) →
    (∀ path part, s'.lookup { place.below path with part := part } = s.lookup { place.below path with part := part }) →
      s'.onActivity place a = s.onActivity place a
  | .leaf e, h => by
      have hhere := h [] place.part
      rw [Place.below_nil] at hhere
      rw [onActivity, onActivity, on_congr hhere]
  | .container e activities vars messages, h => by
      have hhere (part : Part) : s'.lookup { place with part := part } = s.lookup { place with part := part } := by
        have hparts := h [] part
        rwa [Place.below_nil] at hparts
      have hvars : s'.onVariables place vars = s.onVariables place vars :=
        List.map_congr_left fun (v, i) _ => by dsimp only; rw [on_congr (hhere (.variableAt i))]
      have hmessages : s'.onMessages place messages = s.onMessages place messages :=
        List.map_congr_left fun (m, i) _ => by dsimp only; rw [on_congr (hhere (.messageAt i))]
      rw [onActivity, onActivity, on_congr (hhere place.part), hvars, hmessages,
        onActivities_congr place 0 activities fun index path part => ?_]
      rw [Place.child_below]
      exact h _ part

/-- How the children of an activity are stamped depends on the stamps below its place. -/
theorem onActivities_congr (place : Place) (start : Nat) : (activities : List Activity) →
    (∀ index path part, s'.lookup { (place.child index).below path with part := part } =
      s.lookup { (place.child index).below path with part := part }) →
      s'.onActivities place start activities = s.onActivities place start activities
  | [], _ => rfl
  | a :: rest, h => by
      rw [onActivities, onActivities, onActivity_congr (place.child start) a (h start),
        onActivities_congr place (start + 1) rest h]

end

end Stamps

/-- What is below a place keeps its stamps when a number is put on what is at the place. -/
theorem Bench.NumbersOne.onActivities_eq {place : Place} {b c : Bench} (h : b.NumbersOne place c)
    (activities : List Activity) :
    c.stamps.onActivities place 0 activities = b.stamps.onActivities place 0 activities := by
  refine Stamps.onActivities_congr place 0 activities fun index path part => h.stamps _ fun heq => ?_
  have hlength := congrArg (fun p => p.path.length) heq
  simp [Place.below, Place.child] at hlength

open Build in
/-- Without templates, nothing below a container that is skipped is rendered: one number is taken at most, and all that
is below the container keeps its stamps. With other activities in it, and another model in the process manager, the
container is skipped again and leaves the same document, issues, numbers and disk. Therefore an assembly in which a
container is skipped, anywhere in its tree, ends in the same way and leaves the same behind when that container's
activities are replaced. All this holds of the workflow itself and of the containers in it. -/
theorem skipped_container_is_dead (w : Workshop) (h : w.Untemplated) (other : List Activity)
    (model : Option Workflow) :
    (∀ place parent e activities vars messages b c,
      (assembleActivity w .standard place parent (.container e activities vars messages)).run b = (.ok false, c) →
        b.NumbersOne place c ∧ c.stamps.onActivities place 0 activities = b.stamps.onActivities place 0 activities ∧
        ∃ c', (assembleActivity (w.withModel model) .standard place parent
          (.container e other vars messages)).run b = (.ok false, c') ∧ c.Agree c') ∧
    (∀ flow parent b c, (assembleWorkflow w .standard flow parent).run b = (.ok false, c) →
        b.NumbersOne .workflow c ∧
        c.stamps.onActivities .workflow 0 flow.activities = b.stamps.onActivities .workflow 0 flow.activities ∧
        ∃ c', (assembleWorkflow (w.withModel model) .standard { flow with activities := other } parent).run b =
          (.ok false, c') ∧ c.Agree c') ∧
    (∀ place parent e activities vars messages b path,
      skips w (.ofActivity place (.container e activities vars messages)) parent b activities path = true →
        EndsAgree ((assembleActivity w .standard place parent (.container e activities vars messages)).run b)
          ((assembleActivity (w.withModel model) .standard place parent
            (.container e (Activity.replaceIn other path activities) vars messages)).run b)) ∧
    (∀ flow parent b path, skips w (.ofWorkflow flow) parent b flow.activities path = true →
        EndsAgree ((assembleWorkflow w .standard flow parent).run b)
          ((assembleWorkflow (w.withModel model) .standard
            { flow with activities := Activity.replaceIn other path flow.activities } parent).run b)) := by
  have hagain {item item' : Item} (hitem : byTag.on item item') {parent : Scope} {activities : List Activity}
      {b c : Bench} (hskipped : (assembleWith w item parent activities).run b = (.ok false, c)) :
      b.NumbersOne item.place c ∧
        c.stamps.onActivities item.place 0 activities = b.stamps.onActivities item.place 0 activities ∧
        ∃ c', (assembleWith (w.withModel model) item' parent other).run b = (.ok false, c') ∧ c.Agree c' := by
    have hnumbers := assembleWith_skipped_numbersOne hskipped
    have hends : EndsAgree ((assembleWith w item parent activities).run b)
        ((assembleWith (w.withModel model) item' parent other).run b) :=
      assembleWith_skipped_endsAgree h hitem other (.refl b) hskipped
    rw [hskipped] at hends
    exact ⟨hnumbers, hnumbers.onActivities_eq activities, hends.exists_run⟩
  refine ⟨fun place parent e activities vars messages b c hskipped => ?_, fun flow parent b c hskipped => ?_,
    fun place parent e activities vars messages b path hskips => ?_, fun flow parent b path hskips => ?_⟩
  · have htag : byTag.on (.ofActivity place (.container e activities vars messages))
        (.ofActivity place (.container e other vars messages)) := rfl
    rw [assembleActivity] at hskipped ⊢
    exact hagain htag hskipped
  · have htag : byTag.on (.ofWorkflow flow) (.ofWorkflow { flow with activities := other }) := rfl
    exact hagain htag hskipped
  · have htag : byTag.on (.ofActivity place (.container e activities vars messages))
        (.ofActivity place (.container e (Activity.replaceIn other path activities) vars messages)) := rfl
    rw [assembleActivity, assembleActivity]
    exact assembleWith_replaceIn_endsAgree h other htag (.refl b) hskips
  · have htag : byTag.on (.ofWorkflow flow)
        (.ofWorkflow { flow with activities := Activity.replaceIn other path flow.activities }) := rfl
    exact assembleWith_replaceIn_endsAgree h other htag (.refl b) hskips

/-- The plain workshop with a type of containers whose snippet has no file. -/
def patchyWorkshop : Workshop :=
  { plainWorkshop with
    manager :=
      { plainWorkshop.manager with
        snippets :=
          ⟨Snippet.key "activitycontainer" (some "Lost"), "lost.json", none⟩ :: plainWorkshop.manager.snippets } }

/-- A container of that type in another container, with an activity in it and one behind it. -/
def patchyWorkflow : Workflow :=
  { (default : Workflow) with
    activities :=
      [.container default
        [.container { (default : Element) with type := "Lost" } [.leaf default] [] [], .leaf default] [] []] }

/-- What is put into that container instead. -/
def patchyOther : List Activity := [.container default [.leaf default] [] [], .leaf default]

open Build in
/-- The container is skipped, and what is behind it is assembled with the other activities in it as well. -/
theorem skipped_container_is_dead_nested :
    ∃ c c', (assembleWorkflow patchyWorkshop .standard patchyWorkflow plainScope).run plainBench = (.ok true, c) ∧
      (assembleWorkflow (patchyWorkshop.withModel (some patchyWorkflow)) .standard
        { patchyWorkflow with activities := Activity.replaceIn patchyOther [0, 0] patchyWorkflow.activities }
        plainScope).run plainBench = (.ok true, c') ∧
      c.Agree c' ∧ c.issues.length = 1 ∧
      (c.document.at? ["actions", "X", "actions", "X", "actions", "Y"]).isSome := by
  obtain ⟨r, c, hrun, rfl, hskips, hissues, hthere⟩ : ∃ r c,
      (assembleWorkflow patchyWorkshop .standard patchyWorkflow plainScope).run plainBench = (.ok r, c) ∧ r = true ∧
        skips patchyWorkshop (.ofWorkflow patchyWorkflow) plainScope plainBench patchyWorkflow.activities [0, 0] =
          true ∧
        c.issues.length = 1 ∧ (c.document.at? ["actions", "X", "actions", "X", "actions", "Y"]).isSome :=
    Build.exists_run _ (by decide +kernel)
  obtain ⟨_, _, _, hwithin⟩ :=
    skipped_container_is_dead patchyWorkshop (by decide +kernel) patchyOther (some patchyWorkflow)
  have hends := hwithin patchyWorkflow plainScope plainBench [0, 0] hskips
  rw [hrun] at hends
  obtain ⟨c', hrun', hagree⟩ := hends.exists_run
  exact ⟨c, c', hrun, hrun', hagree, hissues, hthere⟩

end WorkflowForge
