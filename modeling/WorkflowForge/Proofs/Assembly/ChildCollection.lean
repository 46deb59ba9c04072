import WorkflowForge.Proofs.Assembly.DeclarationOrder
import WorkflowForge.Proofs.Assembly.Surfacing
import WorkflowForge.Proofs.Generation.Noninterference

/-!
The collection of a container's children in closed form. It holds what it held when the container was opened, then what
comes first in containers of its type, then what the children bring themselves in their order; of each name there is the
first alone. What the children's own children bring is further down.

The actions of a snippet are what it comes to when its turn comes. Where no snippet is a template, and nothing that is
kept for inspection gets in the way of a search, they are to be read off the disk as it was at the beginning.
-/

namespace WorkflowForge

/-- Where a payload gives a path for the children of its action, it leads somewhere. -/
def Payload.LeadsOn (p : Payload) : Prop := p.actionPath.map ActionPath.parse ≠ some []

instance (p : Payload) : Decidable p.LeadsOn := inferInstanceAs (Decidable (¬ _))

/-- If the activity is a container, what it is converted by leads on. -/
def Arrival.LeadsOn (w : Workshop) (t : Arrival) : Prop :=
  t.activity.isContainer = true → ∀ p ∈ Build.containerPayload w t.item t.bench, p.LeadsOn

instance (w : Workshop) (t : Arrival) : Decidable (t.LeadsOn w) :=
  inferInstanceAs (Decidable (_ → ∀ p ∈ Build.containerPayload w t.item t.bench, p.LeadsOn))

/-- The actions that an activity renders itself. -/
def Arrival.own (w : Workshop) (t : Arrival) : Fields :=
  Build.renderedActions w t.item (w.ownSnippets t.activity) t.bench

theorem Scope.isSome_of_resolve {s t : Scope} {document : Json} {segments : List String}
    (h : s.resolve document segments = some t) (hsegments : segments ≠ []) :
    (document.objectAt? t.location).isSome := by
  unfold resolve at h
  dsimp only at h
  split at h
  · next hthere =>
      cases h
      rcases Bool.or_eq_true_iff.mp hthere with hempty | hsome
      · exact absurd (List.isEmpty_iff.mp hempty) hsegments
      · exact hsome
  · cases h

namespace Build

variable {w : Workshop}

section Opening

variable {item : Item} {parent scope : Scope} {o : Opening} {b c : Bench}

theorem childSegments_ne_nil {p : Payload} (h : p.LeadsOn) (action : String) : childSegments p action ≠ [] := by
  unfold Payload.LeadsOn at h
  unfold childSegments
  cases hpath : p.actionPath with
  | none => simp
  | some path =>
      rw [hpath] at h
      exact fun hempty => h (congrArg some hempty)

/-- A container that leads on brings what it renders itself into the collection it stands in, and nothing else. -/
theorem surface_eq_own {place : Place} {parent : Scope} {b : Bench} {a : Activity}
    (h : (Arrival.mk place a b).LeadsOn w) : surface w place parent b a = (Arrival.mk place a b).own w := by
  cases a with
  | leaf e => rw [surface, Arrival.own, Arrival.item, Workshop.ownSnippets]
  | container e activities vars messages =>
      let item := Item.ofActivity place (.container e activities vars messages)
      have hbelow (children : Scope → Bench → Fields) :
          surfaced parent (contents w item children) ((opening w item parent).run b) = [] := by
        cases hrun : (opening w item parent).run b with
        | mk r c =>
            rcases r with f | ⟨own, _ | scope⟩
            · rfl
            · rfl
            · refine if_neg fun hsame => ?_
              unfold opening at hrun
              split at hrun
              · obtain ⟨name, hprefix⟩ := (openBranch_receivesAt hrun).2 scope rfl
                rw [hsame] at hprefix
                exact not_append_prefix_self (by simp) hprefix
              · obtain ⟨p, action, hpayload, hlocation⟩ := openContainer_location hrun rfl
                rw [hsame] at hlocation
                exact childSegments_ne_nil (h rfl p hpayload) action (List.self_eq_append_right.mp hlocation)
      rw [surface, hbelow, List.append_nil]
      rfl

theorem surfaceIn_eq_own {place : Place} {scope : Scope} {index : Nat} {b : Bench} {activities : List Activity}
    (h : ∀ t ∈ arrivals w place scope index b activities, t.LeadsOn w) :
    surfaceIn w place scope index b activities =
      (arrivals w place scope index b activities).flatMap (Arrival.own w) := by
  rw [surfaceIn_eq_flatMap]
  exact List.flatMap_congr fun t ht => surface_eq_own (h t ht)

theorem openCase_isSome {payload : Payload} {switch : Scope} {name : String} {first : String × Json}
    (hrun : (openCase w item payload switch name first).run b = (.ok o, c)) (hscope : o.scope = some scope) :
    (c.document.objectAt? scope.location).isSome := by
  obtain ⟨d, e, hget, hrun⟩ := run_bind_ok hrun
  cases hget
  split at hrun
  · obtain ⟨_, f, _, hrun⟩ := run_bind_ok hrun
    cases hrun
    cases hscope
  · next cases_ hcases =>
      have hthere := Scope.isSome_of_resolve hcases (by simp)
      obtain ⟨added, f, hadd, hrun⟩ := run_bind_ok hrun
      have hkept : (f.document.objectAt? cases_.location).isSome := by
        obtain ⟨entries, hentries⟩ := Option.isSome_iff_exists.mp hthere
        have hgrows := (add_acts (w := w) cases_ List.nil_prefix first.1 first.2).grows b
        rw [hadd] at hgrows
        obtain ⟨grown, hgrown, _⟩ := hgrows.objectAt? hentries
        rw [hgrown]
        rfl
      have hlast {g : Bench} (own : Option Contribution) (hsame : g.document = f.document)
          (h : (do return ⟨own, ← locateChildren w payload first.1 cases_⟩ : Build Opening).run g = (.ok o, c)) :
          (c.document.objectAt? scope.location).isSome := by
        obtain ⟨found, k, hlocate, h⟩ := run_bind_ok h
        cases h
        dsimp only at hscope
        rw [hscope] at hlocate
        exact (locateChildren_found hlocate (hsame ▸ hkept)).2
      dsimp only at hrun
      split at hrun
      · obtain ⟨_, g, hdebug, hrun⟩ := run_bind_ok hrun
        exact hlast _ (debug_document_eq hdebug) hrun
      · obtain ⟨_, g, hwarning, hrun⟩ := run_bind_ok hrun
        exact hlast _ (Does.document_eq (w := w) (fun _ => warning_acts _ _ _) hwarning) hrun

theorem locateElse_isSome {switch : Scope} {name : String}
    (hrun : (locateElse w switch name).run b = (.ok (some scope), c)) :
    (c.document.objectAt? scope.location).isSome := by
  obtain ⟨d, e, hget, hrun⟩ := run_bind_ok hrun
  cases hget
  split at hrun
  · next hfound =>
      cases hrun
      exact Scope.isSome_of_resolve hfound (by simp)
  · obtain ⟨_, f, _, hrun⟩ := run_bind_ok hrun
    cases hrun

/-- The collection that is opened for the children is there. -/
theorem opening_isSome (hrun : (opening w item parent).run b = (.ok o, c)) (hscope : o.scope = some scope)
    (hobject : (b.document.objectAt? parent.location).isSome) : (c.document.objectAt? scope.location).isSome := by
  unfold opening at hrun
  split at hrun
  · rcases openBranch_cases hrun with ⟨hnone, _⟩ | ⟨name, e, _, helse | ⟨payload, first, hcase⟩⟩
    · rw [hnone] at hscope
      cases hscope
    · rw [hscope] at helse
      exact locateElse_isSome helse
    · exact openCase_isSome hcase hscope
  · obtain ⟨_, _, _, _, _, hthere⟩ := (openContainer_recorded hrun hobject).scope scope hscope
    exact hthere

end Opening

end Build

theorem Workshop.mem_of_mem_leafSnippets {w : Workshop} {type : String} {s : Snippet} (h : s ∈ w.leafSnippets type) :
    s ∈ w.manager.snippets := by
  have heither {beginning : String} (h : s ∈ if (w.manager.snippetsBelow beginning).isEmpty then
      (w.manager.resolve "activity" (some type)).toList else w.manager.snippetsBelow beginning) :
      s ∈ w.manager.snippets := by
    split at h
    · exact ProcessManager.mem_of_resolve (Option.mem_toList.mp h)
    · exact ProcessManager.mem_of_mem_snippetsBelow h
  unfold leafSnippets at h
  dsimp only at h
  split at h
  · exact heither h
  · split at h
    · exact heither h
    · exact ProcessManager.mem_of_resolve (Option.mem_toList.mp h)

/-- The actions of a snippet whose file is taken as it stands. -/
def Workshop.plainActions (w : Workshop) (d : Disk) (snippet : Snippet) : Fields :=
  Build.actionsOf ((Build.plainResult w snippet d).toOption.join.map Payload.ofJson)

/-- No snippet is a template, and from one bench to another nothing gets in the way of a search for one. -/
structure Workshop.Steady (w : Workshop) (start final : Bench) : Prop where
  plain : w.IsPlain start.disk
  wellFormed : start.disk.WellFormed
  proper : w.generationPath.IsProper
  quiet : w.Quiet start final

/-- A bench that is reached from one on the way, and from which one on the way is reached, is on the way. -/
theorem Bench.Between.of_runs {α β : Type} {x : Build α} {y : Build β} {r : Except Fault α} {s : Except Fault β}
    {start final b c d : Bench} (hb : Between start final b) (hc : Between start final c) (hx : Build.IsTold x)
    (hy : Build.IsTold y) (hfirst : x.run b = (r, d)) (hrest : y.run d = (s, c)) : Between start final d := by
  have hbefore := hx b
  have hafter := hy d
  rw [hfirst] at hbefore
  rw [hrest] at hafter
  exact ⟨hb.since.trans hbefore, hafter.trans hc.ahead⟩

namespace Build

variable {w : Workshop}

theorem Composed.isTold {α : Type} {within : List String} {x : Build α} {post : α → Prop}
    (hx : Composed w .plain within x post) (hproper : w.generationPath.IsProper) : IsTold x :=
  hx.told_any hproper fun _ _ _ h => absurd h id

section Steady

variable {start final b c : Bench} (h : w.Steady start final)

include h

theorem render_steady {item : Option Item} {snippet : Snippet} {payload : Option Payload}
    (hb : start.Between final b) (hsnippet : snippet ∈ w.manager.snippets)
    (hrun : (render w item snippet).run b = (.ok payload, c)) :
    actionsOf payload = w.plainActions start.disk snippet := by
  obtain ⟨v, d, hrender, hrun⟩ := run_bind_ok hrun
  cases hrun
  have hsees := hb.seesSame h.wellFormed h.quiet
  have hresult := (renderJson_of_isPlain (h.plain.of_seesSame hsees) hsnippet hrender (unhindered_ok v)).1
  rw [(plain_eq rfl rfl hsees hsnippet).1] at hresult
  rw [Workshop.plainActions, ← hresult]
  rfl

theorem contributeAll_steady {item : Item} {scope : Scope} {source : Snippet → String} {snippets : List Snippet}
    {own : List Contribution} (hb : start.Between final b) (hc : start.Between final c)
    (hsnippets : ∀ s ∈ snippets, s ∈ w.manager.snippets)
    (hrun : (contributeAll w item scope source snippets).run b = (.ok own, c)) :
    own.flatMap Contribution.actions = snippets.flatMap (w.plainActions start.disk) := by
  induction snippets generalizing b own with
  | nil =>
      cases hrun
      rfl
  | cons snippet rest ih =>
      rw [List.forall_mem_cons] at hsnippets
      have hitem : Terms.plain.diagonal.on item item := ⟨rfl, trivial⟩
      obtain ⟨first, d, hfirst, hrun⟩ := run_bind_ok hrun
      obtain ⟨others, e, hothers, hrun⟩ := run_bind_ok hrun
      cases hrun
      obtain ⟨payload, f, hrender, _, hactions⟩ := contribute_rendered hfirst
      have hd : start.Between final d := by
        refine hb.of_runs hc ?_ ?_ hfirst hothers
        · exact (contribute_paired hitem scope List.nil_prefix _ _ _ hsnippets.1).alone.isTold h.proper
        · exact (contributeAll_paired hitem scope List.nil_prefix _ _ _ hsnippets.2).alone.isTold h.proper
      rw [List.flatMap_append, hactions, List.flatMap_cons, render_steady h hb hsnippets.1 hrender,
        ih hd hsnippets.2 hothers]

theorem Offers.steady {item : Item} {found : Option Snippet} {actions : Fields} (hb : start.Between final b)
    (hfound : ∀ s, found = some s → s ∈ w.manager.snippets) (hoffers : Offers w item found.toList actions b c) :
    actions = found.toList.flatMap (w.plainActions start.disk) := by
  obtain ⟨d, hrun, _⟩ := hoffers
  cases found with
  | none =>
      cases hrun
      rfl
  | some snippet =>
      obtain ⟨payload, e, hrender, hrun⟩ := run_bind_ok hrun
      cases hrun
      rw [render_steady h hb (hfound snippet rfl) hrender]
      rfl

theorem stock_steady {item : Item} {scope : Scope} (hb : start.Between final b) (hc : start.Between final c)
    (hrun : (stock w item scope).run b = (.ok (), c)) :
    renderedActions w item (w.prebuiltSnippets item.type) b =
      (w.prebuiltSnippets item.type).flatMap (w.plainActions start.disk) := by
  have hitem : Terms.plain.diagonal.on item item := ⟨rfl, trivial⟩
  obtain ⟨count, d, hcount, hrun⟩ := run_bind_ok hrun
  obtain ⟨own, e, hown, hcount⟩ := run_bind_ok hcount
  cases hcount
  have hd : start.Between final d := by
    refine hb.of_runs hc ?_ ?_ hown hrun
    · exact (prebuiltContributions_paired rfl hitem scope List.nil_prefix).alone.isTold h.proper
    · have hlast (x : Build Unit) (hx : IsComposed w .plain [] x) : IsTold x := hx.isTold h.proper
      apply hlast
      split
      · exact .debug _ _ _ (by decide)
      · exact .done
  rw [(prebuiltContributions_offers hown).renderedActions_eq]
  unfold prebuiltContributions at hown
  unfold Workshop.prebuiltSnippets
  split at hown
  · next hempty =>
      rw [if_pos (by simpa using hempty)]
      cases hown
      rfl
  · next hempty =>
      rw [if_neg (by simpa using hempty)]
      exact contributeAll_steady h hb hd (fun s => ProcessManager.mem_of_mem_snippetsBelow) hown

theorem leaf_steady {item : Item} {parent : Scope} {own : List Contribution} (hb : start.Between final b)
    (hc : start.Between final c) (hrun : (leafContributions w item parent).run b = (.ok own, c)) :
    renderedActions w item (w.leafSnippets item.type) b =
      (w.leafSnippets item.type).flatMap (w.plainActions start.disk) := by
  have hitem : Terms.plain.diagonal.on item item := ⟨rfl, trivial⟩
  have hsnippets : ∀ s ∈ w.leafSnippets item.type, s ∈ w.manager.snippets := fun s => Workshop.mem_of_mem_leafSnippets
  rw [(leafContributions_offers hrun).renderedActions_eq]
  obtain ⟨before, hcomposed, _, heq⟩ := leafContributions_endsIn (w := w) item parent
  rw [heq] at hrun
  obtain ⟨_, d, hbefore, hrun⟩ := run_bind_ok hrun
  have hd : start.Between final d := by
    refine hb.of_runs hc (hcomposed.isTold h.proper) ?_ hbefore hrun
    exact (contributeAll_paired hitem parent List.nil_prefix _ _ _ hsnippets).alone.isTold h.proper
  exact contributeAll_steady h hd hc hsnippets hrun

/-- What an activity renders itself is to be read off the disk. -/
theorem own_steady {place : Place} {parent : Scope} {a : Activity} {r : Bool} (hb : start.Between final b)
    (hc : start.Between final c) (hrun : (assembleActivity w .standard place parent a).run b = (.ok r, c)) :
    (Arrival.mk place a b).own w = (w.ownSnippets a).flatMap (w.plainActions start.disk) := by
  cases a with
  | leaf e =>
      rw [assembleActivity] at hrun
      have hconvert := convert_leaf w (.ofActivity place (.leaf e)) parent
      obtain ⟨own, d, hown, hrun⟩ := run_bind_ok ((congrArg (·.run b) hconvert).symm.trans hrun)
      cases hrun
      exact leaf_steady h hb hc hown
  | container e activities vars messages =>
      rw [assembleActivity, assembleContainer_stock] at hrun
      obtain ⟨o, d, hopening, _⟩ := run_bind_ok hrun
      unfold Arrival.own Workshop.ownSnippets Workshop.containerSnippets
      dsimp only
      unfold opening at hopening
      split at hopening
      · next hbranch =>
          have hbranch : e.type = "DecisionBranch" := hbranch
          rw [if_pos hbranch]
          rfl
      · next hbranch =>
          have hbranch : ¬ e.type = "DecisionBranch" := hbranch
          rw [if_neg hbranch]
          have hoffers := openContainer_offers hopening
          exact hoffers.renderedActions_eq.trans (hoffers.steady h hb fun s => ProcessManager.mem_of_resolve)

theorem arrivals_steady {place : Place} {scope : Scope} {index : Nat} {activities : List Activity}
    (hb : start.Between final b) (hc : start.Between final c)
    (hrun : (assembleActivities w .standard place scope index activities).run b = (.ok (), c)) :
    (arrivals w place scope index b activities).flatMap (Arrival.own w) =
      (activities.flatMap w.ownSnippets).flatMap (w.plainActions start.disk) := by
  induction activities generalizing b index with
  | nil => rfl
  | cons a rest ih =>
      obtain ⟨r, d, hfirst, hrun⟩ := assembleActivities_cons_run hrun
      have hself : a.Corresponds Terms.plain.diagonal.on (place.child index) a :=
        Activity.corresponds_self _ a fun _ _ _ => ⟨rfl, trivial⟩
      have hd : start.Between final d := by
        refine hb.of_runs hc ?_ ((assembleActivities_composed _ _ _ _).isTold h.proper) hfirst hrun
        exact (assembleActivity_paired Registry.standard_builtIn rfl _ scope List.nil_prefix a a hself).alone.isTold
          h.proper
      rw [arrivals, List.flatMap_cons, own_steady h hb hd hfirst, List.flatMap_cons, List.flatMap_append, hfirst,
        ih hd hrun]

end Steady

end Build

open Build in
/-- The collection that a container gives its children holds, after the container was assembled, what it held when it
was opened, then what comes first in containers of the type, then what each child renders itself; of each name there is
the first alone. Where no snippet is a template, these are the actions of the snippets as they stand on the disk. -/
theorem child_collection_closed_form (w : Workshop) (item : Item) (place : Place) (parent scope : Scope)
    (activities : List Activity) (b o c : Bench) (r : Bool)
    (hobject : (b.document.objectAt? parent.location).isSome)
    (hconvert : ((Registry.standard.containerHandler item.type).convert w item parent).run b = (.ok (some scope), o))
    (hrun : (assembleContainer w .standard item parent fun s => assembleActivities w .standard place s 0 activities).run
      b = (.ok r, c))
    (hpaths : ∀ t ∈ arrivals w place scope 0 ((stock w item scope).run o).2 activities, t.LeadsOn w) :
    let offers := renderedActions w item (w.prebuiltSnippets item.type) o ++
      (arrivals w place scope 0 ((stock w item scope).run o).2 activities).flatMap (Arrival.own w)
    (∃ old new, o.document.objectAt? scope.location = some old ∧ c.document.objectAt? scope.location = some new ∧
        Fields.Receives old offers new) ∧
      (w.Steady o c → offers =
        (w.prebuiltSnippets item.type ++ activities.flatMap w.ownSnippets).flatMap (w.plainActions o.disk)) := by
  intro offers
  rw [convert_container] at hconvert
  obtain ⟨⟨own, found⟩, d, hopening, hconvert⟩ := run_bind_ok hconvert
  cases hconvert
  obtain ⟨_, d, hstock, hfilled⟩ := assembleContainer_run hopening hrun
  rw [hstock] at hpaths
  have hoffers : offers = renderedActions w item (w.prebuiltSnippets item.type) o ++
      (arrivals w place scope 0 d activities).flatMap (Arrival.own w) := by
    dsimp only [offers]
    rw [hstock]
  rw [hoffers]
  constructor
  · have hthere := opening_isSome hopening rfl hobject
    have hall : Json.ReceivesAt scope.location (contents w item (fun s e => surfaceIn w place s 0 e activities) scope o)
        o.document c.document := contents_receivesAt hstock (assembleActivities_receivesAt activities hfilled) hthere
    rw [contents, hstock, surfaceIn_eq_own hpaths] at hall
    obtain ⟨old, hold⟩ := Option.isSome_iff_exists.mp hthere
    obtain ⟨new, hnew, hreceives⟩ := hall old hold
    exact ⟨old, new, hold, hnew, hreceives⟩
  · intro hsteady
    have hstart : IsTold (stock w item scope) := (stock_composed item scope).isTold hsteady.proper
    have hrest : IsTold (assembleActivities w .standard place scope 0 activities) :=
      (assembleActivities_composed place scope 0 activities).isTold hsteady.proper
    have hbefore := hstart o
    have hafter := hrest d
    rw [hstock] at hbefore
    rw [hfilled] at hafter
    have ho : o.Between c o := ⟨.refl _ _, hbefore.trans hafter⟩
    have hc : o.Between c c := ⟨hbefore.trans hafter, .refl _ _⟩
    have hd : o.Between c d := ⟨hbefore, hafter⟩
    rw [stock_steady hsteady ho hd hstock, arrivals_steady hsteady hd hc hfilled, List.flatMap_append]

/-- The plain workshop with more snippets: one of what comes first in a container, whose text is kept for inspection,
and two of a channel. -/
def stockedWorkshop : Workshop :=
  { plainWorkshop with
    generationPath := .ofText "generated"
    manager :=
      { plainWorkshop.manager with
        snippets := plainWorkshop.manager.snippets ++
          [⟨Snippet.key "activitycontainer" (some "scope") ++ ".first", "first.json", some "debug"⟩,
            ⟨Snippet.key "channel.send" none ++ ".call", "call.json", none⟩,
            ⟨Snippet.key "channel.send" none ++ ".wait", "wait.json", none⟩] } }

def stockedBench : Bench :=
  { plainBench with
    disk :=
      { plainBench.disk with
        entries := plainBench.disk.entries ++
          [(["first.json"], .file (.text "\x7b\"workflowDefinitionAction\": \x7b\"P\": 1\x7d\x7d")),
            (["call.json"], .file (.text "\x7b\"workflowDefinitionAction\": \x7b\"A\": 1, \"Y\": 2\x7d\x7d")),
            (["wait.json"], .file (.text "\x7b\"workflowDefinitionAction\": \x7b\"B\": 1, \"A\": 2\x7d\x7d"))] } }

/-- An activity, a container with an activity in it, a branch without a switch, and a sending activity. -/
def stockedWorkflow : Workflow :=
  { (default : Workflow) with
    element := { (default : Element) with type := "Scope" }
    activities :=
      [.leaf default, .container default [.leaf default] [] [],
        .container { (default : Element) with type := "DecisionBranch" } [.leaf default] [] [],
        .leaf { (default : Element) with type := "Send" }] }

def stockedScope : Scope := ⟨[], ["actions", "X", "actions"]⟩

/-- What can be computed of the benches when the container is opened and when it is filled. -/
def StockedFacts (o c : Bench) : Prop :=
  (∀ t ∈ Build.arrivals stockedWorkshop .workflow stockedScope 0
      ((Build.stock stockedWorkshop (.ofWorkflow stockedWorkflow) stockedScope).run o).2 stockedWorkflow.activities,
      t.LeadsOn stockedWorkshop) ∧
    (o.document.objectAt? stockedScope.location).map Fields.names = some [] ∧ stockedWorkshop.IsPlain o.disk ∧
    o.disk.entryAt? o.disk.workingDirectory = some .directory ∧
    (∀ x ∈ o.disk.entries, o.disk.entryAt? x.1.dropLast = some .directory) ∧ stockedWorkshop.Quiet o c ∧
    Fields.names (Fields.free [] ((stockedWorkshop.prebuiltSnippets (Item.ofWorkflow stockedWorkflow).type ++
      stockedWorkflow.activities.flatMap stockedWorkshop.ownSnippets).flatMap
        (stockedWorkshop.plainActions o.disk))) = ["P", "Y", "X", "A", "B"]

instance (o c : Bench) : Decidable (StockedFacts o c) := inferInstanceAs (Decidable (_ ∧ _))

open Build in
/-- What comes first in the container stands before its children. The activity in the inner container does not show, the
branch brings nothing, and of the two channel snippets come the actions whose names are new. -/
theorem child_collection_closed_form_stocked :
    ∃ o c new,
      ((Registry.standard.containerHandler (Item.ofWorkflow stockedWorkflow).type).convert stockedWorkshop
          (.ofWorkflow stockedWorkflow) plainScope).run stockedBench = (.ok (some stockedScope), o) ∧
        (assembleWorkflow stockedWorkshop .standard stockedWorkflow plainScope).run stockedBench = (.ok true, c) ∧
        stockedWorkshop.Steady o c ∧ c.document.objectAt? stockedScope.location = some new ∧
        Fields.names new = ["P", "Y", "X", "A", "B"] := by
  obtain ⟨found, o, hconvert, rfl, hassembled⟩ : ∃ found o,
      ((Registry.standard.containerHandler (Item.ofWorkflow stockedWorkflow).type).convert stockedWorkshop
          (.ofWorkflow stockedWorkflow) plainScope).run stockedBench = (.ok found, o) ∧
        found = some stockedScope ∧
        (assembleWorkflow stockedWorkshop .standard stockedWorkflow plainScope).yields stockedBench
          (fun r c => r = true ∧ StockedFacts o c) = true :=
    Build.exists_run _ (by decide +kernel)
  obtain ⟨_, c, hrun, rfl, hpaths, hold, hplain, hsettled, hentries, hquiet, hnames⟩ := Build.exists_run _ hassembled
  have hsteady : stockedWorkshop.Steady o c :=
    ⟨hplain, .of_entries hsettled hentries, Path.isProper_ofText _, hquiet⟩
  obtain ⟨⟨old, new, hthere, hnew, hreceives⟩, hoffers⟩ := child_collection_closed_form stockedWorkshop
    (.ofWorkflow stockedWorkflow) .workflow plainScope stockedScope stockedWorkflow.activities stockedBench o c true rfl
    hconvert hrun hpaths
  refine ⟨o, c, new, hconvert, hrun, hsteady, hnew, ?_⟩
  have hempty : Fields.names old = [] := by
    rw [hthere] at hold
    exact Option.some.inj hold
  rw [hreceives.names_eq, Fields.names_append, hempty, List.nil_append, hoffers hsteady]
  exact hnames

end WorkflowForge
