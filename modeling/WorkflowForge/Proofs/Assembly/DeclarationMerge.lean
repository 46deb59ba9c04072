import WorkflowForge.Proofs.Assembly.Collections
import WorkflowForge.Proofs.Assembly.DeclarationOrder
import WorkflowForge.Proofs.Assembly.Elements

/-!
Declarations as a merge. What is to be rendered, for what and in which order, is settled before anything is added; so to
add declarations comes to the same as to render all there is to render, one after the other, and then to put into the
collection, behind what it holds, all that was rendered, of each name the first and no name that is taken. Variables and
messages are rendered for the workflow first and then for what is declared in each container of it, the containers in
the order of their paths: a container stands before those in it, and those in it before the containers behind it.
-/

namespace WorkflowForge

namespace Activity

theorem mem_containersAtIn {place : Place} {start index : Nat} {activities : List Activity} {child : Activity}
    {c : Place × Activity} (hchild : activities[index]? = some child)
    (hc : c ∈ containersAt (place.child (start + index)) child) : c ∈ containersAtIn place start activities := by
  induction activities generalizing start index with
  | nil => cases hchild
  | cons a rest ih =>
      rw [containersAtIn, List.mem_append]
      cases index with
      | zero =>
          cases hchild
          exact .inl hc
      | succ index =>
          rw [← Nat.add_assoc, Nat.add_right_comm] at hc
          exact .inr (ih hchild hc)

/-- Every container that is reached from an activity is among its containers. -/
theorem mem_containersAt {place : Place} {a c : Activity} {path : List Nat} (h : a.at? path = some c)
    (hcontainer : c.isContainer = true) : (place.below path, c) ∈ containersAt place a := by
  induction path generalizing a place with
  | nil =>
      cases h
      cases c with
      | leaf e => cases hcontainer
      | container e activities vars messages =>
          rw [Place.below_nil, containersAt]
          exact List.mem_cons_self
  | cons index path ih =>
      obtain ⟨child, hchild, hrest⟩ := Option.bind_eq_some_iff.mp h
      cases a with
      | leaf e => cases hchild
      | container e activities vars messages =>
          have hbelow : ((place.child (0 + index)).below path, c) ∈ containersAt (place.child (0 + index)) child :=
            ih hrest
          rw [containersAt, ← Place.child_below, ← Nat.zero_add index]
          exact List.mem_cons_of_mem _ (mem_containersAtIn hchild hbelow)

mutual

theorem isContainer_of_mem_containersAt (place : Place) : (a : Activity) →
    ∀ c ∈ containersAt place a, c.2.isContainer = true
  | .leaf e => by simp [containersAt]
  | .container e activities vars messages => by
      rw [containersAt, List.forall_mem_cons]
      exact ⟨rfl, isContainer_of_mem_containersAtIn place 0 activities⟩

theorem isContainer_of_mem_containersAtIn (place : Place) (start : Nat) : (activities : List Activity) →
    ∀ c ∈ containersAtIn place start activities, c.2.isContainer = true
  | [] => by simp [containersAtIn]
  | a :: rest => by
      rw [containersAtIn, List.forall_mem_append]
      exact ⟨isContainer_of_mem_containersAt (place.child start) a,
        isContainer_of_mem_containersAtIn place (start + 1) rest⟩

end

mutual

/-- The containers of an activity stand in the order of their paths. -/
theorem containersAt_pairwise (place : Place) : (a : Activity) →
    (containersAt place a).Pairwise fun first second => first.1.path < second.1.path
  | .leaf e => by
      rw [containersAt]
      exact .nil
  | .container e activities vars messages => by
      rw [containersAt, List.pairwise_cons]
      refine ⟨fun c hc => ?_, containersAtIn_pairwise place 0 activities⟩
      obtain ⟨index, child, path, _, hplace, _⟩ := exists_at?_of_mem_containersAtIn place 0 activities c hc
      rw [hplace, Place.child_below]
      have hbelow : place.path ++ [] < place.path ++ (0 + index) :: path :=
        List.append_left_lt (List.nil_lt_cons _ _)
      rwa [List.append_nil] at hbelow

theorem containersAtIn_pairwise (place : Place) (start : Nat) : (activities : List Activity) →
    (containersAtIn place start activities).Pairwise fun first second => first.1.path < second.1.path
  | [] => by
      rw [containersAtIn]
      exact .nil
  | a :: rest => by
      rw [containersAtIn, List.pairwise_append]
      refine ⟨containersAt_pairwise (place.child start) a, containersAtIn_pairwise place (start + 1) rest,
        fun first hfirst second hsecond => ?_⟩
      obtain ⟨path, hplace, _⟩ := exists_at?_of_mem_containersAt (place.child start) a first hfirst
      obtain ⟨index, child, path', _, hplace', _⟩ :=
        exists_at?_of_mem_containersAtIn place (start + 1) rest second hsecond
      rw [hplace, hplace', Place.child_below, Place.child_below]
      exact List.append_left_lt (List.cons_lt_cons_iff.mpr (.inl (by omega)))

end

end Activity

namespace Workflow

/-- The paths of all containers of a workflow, the workflow itself included, in their order. -/
def containerPaths (flow : Workflow) : List (List Nat) :=
  (flow.root.containersAt .workflow).map fun c => c.1.path

theorem containerPaths_pairwise (flow : Workflow) : flow.containerPaths.Pairwise (· < ·) :=
  List.pairwise_map.mpr (Activity.containersAt_pairwise .workflow flow.root)

theorem at?_of_mem_containersAt {flow : Workflow} {c : Place × Activity} (h : c ∈ flow.root.containersAt .workflow) :
    c.1 = Place.workflow.below c.1.path ∧ flow.root.at? c.1.path = some c.2 := by
  obtain ⟨path, hplace, hat⟩ := Activity.exists_at?_of_mem_containersAt .workflow flow.root c h
  have hpath : c.1.path = path := by
    rw [hplace]
    rfl
  rw [hpath]
  exact ⟨hplace, hat⟩

theorem mem_containerPaths (flow : Workflow) (path : List Nat) :
    path ∈ flow.containerPaths ↔ ∃ c, flow.root.at? path = some c ∧ c.isContainer = true := by
  constructor
  · intro h
    obtain ⟨c, hc, rfl⟩ := List.mem_map.mp h
    exact ⟨c.2, (at?_of_mem_containersAt hc).2, Activity.isContainer_of_mem_containersAt .workflow flow.root c hc⟩
  · rintro ⟨c, hat, hcontainer⟩
    exact List.mem_map.mpr ⟨_, Activity.mem_containersAt hat hcontainer, rfl⟩

/-- What is listed for the containers of a workflow is listed path by path. -/
theorem flatMap_containersAt {α : Type} (flow : Workflow) (list : Place → Activity → List α) :
    (flow.root.containersAt .workflow).flatMap (fun c => list c.1 c.2) =
      flow.containerPaths.flatMap fun path =>
        (flow.root.at? path).toList.flatMap (list (Place.workflow.below path)) := by
  rw [containerPaths, List.flatMap_map]
  refine List.flatMap_congr fun c hc => ?_
  obtain ⟨hplace, hat⟩ := at?_of_mem_containersAt hc
  rw [hat, ← hplace, Option.toList_some, List.flatMap_singleton]

theorem variableItems_eq (flow : Workflow) :
    flow.variableItems = flow.containerPaths.flatMap fun path => (flow.root.at? path).toList.flatMap fun c =>
      c.vars.zipIdx.map fun (v, i) => ⟨{ Place.workflow.below path with part := .variableAt i }, .stored v⟩ := by
  have hpaths := flow.flatMap_containersAt fun place c =>
    c.vars.zipIdx.map fun (v, i) => (⟨{ place with part := .variableAt i }, .stored v⟩ : Item)
  exact hpaths

theorem messageItems_eq (flow : Workflow) :
    flow.messageItems = flow.containerPaths.flatMap fun path => (flow.root.at? path).toList.flatMap fun c =>
      c.messages.zipIdx.map fun (m, i) => ⟨{ Place.workflow.below path with part := .messageAt i }, .message m⟩ := by
  have hpaths := flow.flatMap_containersAt fun place c =>
    c.messages.zipIdx.map fun (m, i) => (⟨{ place with part := .messageAt i }, .message m⟩ : Item)
  exact hpaths

end Workflow

namespace Build

/-- Renders snippets, each for an element or for none, one after the other, and collects a section of each. -/
def collected (w : Workshop) (part : Json → Option Fields) : List (Option Item × Snippet) → Build Fields
  | [] => return []
  | (item, snippet) :: rest => do
    let value ← renderJson w item snippet true
    return (value.bind part).getD [] ++ (← collected w part rest)

/-- To run a build is to put into a collection what the given renderings come to: behind the old entries stands of each
new name the first that is offered, and the build counts those. Nothing else of the document changes, and later
renderings come to the same as after the given ones alone. If one of the renderings fails, so does the build. -/
def Merges (w : Workshop) (part : Json → Option Fields) (place : List String) (jobs : List (Option Item × Snippet))
    (x : Build Nat) : Prop :=
  ∀ ⦃b : Bench⦄ ⦃entries : Fields⦄, b.document.objectAt? place = some entries →
    (∀ offers d, (collected w part jobs).run b = (.ok offers, d) →
      ∃ c, x.run b = (.ok (Fields.free (Fields.names entries) offers).length, c) ∧
        c.document = (b.document.modifyAt place fun _ =>
          .object (entries ++ Fields.free (Fields.names entries) offers)) ∧ d.RendersLike c) ∧
    (∀ f d, (collected w part jobs).run b = (.error f, d) → ∃ c, x.run b = (.error f, c))

/-- The same for a build that puts the entries into a skeleton and leaves the document alone. -/
def MergesOnto (w : Workshop) (part : Json → Option Fields) (jobs : List (Option Item × Snippet)) (skeleton : Fields)
    (x : Build (Nat × Fields)) : Prop :=
  ∀ b : Bench,
    (∀ offers d, (collected w part jobs).run b = (.ok offers, d) →
      ∃ c, x.run b = (.ok ((Fields.free (Fields.names skeleton) offers).length,
          skeleton ++ Fields.free (Fields.names skeleton) offers), c) ∧
        c.document = b.document ∧ d.RendersLike c) ∧
    (∀ f d, (collected w part jobs).run b = (.error f, d) → ∃ c, x.run b = (.error f, c) ∧ c.document = b.document)

section Merge

variable {w : Workshop} {part : Json → Option Fields} {place : List String} {scope : Scope}

theorem Uniform.collected (jobs : List (Option Item × Snippet)) : Uniform (Build.collected w part jobs) := by
  induction jobs with
  | nil => exact done _
  | cons job rest ih => exact bind (renderJson _ _) fun _ => bind ih fun _ => done _

theorem collected_append (first second : List (Option Item × Snippet)) :
    collected w part (first ++ second) = do
      let offers ← collected w part first
      return offers ++ (← collected w part second) := by
  induction first with
  | nil => simp [collected]
  | cons job rest ih =>
      obtain ⟨item, snippet⟩ := job
      rw [List.cons_append, collected, collected, ih]
      simp only [bind_assoc, pure_bind, List.append_assoc]

/-- A build that adds entries to a collection one by one, each unless its name is taken, and counts the added ones. -/
def Adds (place : List String) (offers : Fields) (x : Build Nat) : Prop :=
  ∀ ⦃b : Bench⦄ ⦃entries : Fields⦄, b.document.objectAt? place = some entries →
    ∃ c, x.run b = (.ok (Fields.free (Fields.names entries) offers).length, c) ∧
      c.document = (b.document.modifyAt place fun _ =>
        .object (entries ++ Fields.free (Fields.names entries) offers)) ∧ b.RendersLike c

/-- A build that writes to the log at most. -/
def Tells {α : Type} (x : Build α) (a : α) : Prop :=
  ∀ b, ∃ c, x.run b = (.ok a, c) ∧ c.document = b.document ∧ b.RendersLike c

theorem Tells.debug (logger name : String) (fields : Fields) : Tells (Build.debug logger name fields) () :=
  fun _ => ⟨_, rfl, rfl, rfl, rfl, rfl⟩

theorem Tells.warning (logger name : String) (fields : Fields) : Tells (Build.warning logger name fields) () :=
  fun _ => ⟨_, rfl, rfl, rfl, rfl, rfl⟩

theorem Tells.done {α : Type} (a : α) : Tells (Pure.pure a : Build α) a := fun b => ⟨b, rfl, rfl, .refl b⟩

/-- Entries are added one by one, and of each it is told whether it was added. -/
theorem adds_of_each {insert : Fields → Build Nat} (tell : String → Bool → Build Unit)
    (htell : ∀ name added, Tells (tell name added) ()) (hnil : insert [] = pure 0)
    (hcons : ∀ name body rest, insert ((name, body) :: rest) = do
      let added ← add scope name body
      tell name added
      return (if added then 1 else 0) + (← insert rest)) (offers : Fields) :
    Adds scope.location offers (insert offers) := by
  induction offers with
  | nil =>
      intro b entries h
      refine ⟨b, by rw [hnil]; rfl, ?_, .refl b⟩
      rw [Fields.free, List.append_nil, Json.modifyAt_const ((Json.objectAt?_eq_some_iff _ _ _).mp h)]
  | cons offer rest ih =>
      obtain ⟨name, body⟩ := offer
      intro b entries h
      -- What follows when it is settled whether the first entry comes in.
      have hrest (added : Bool) {d : Bench} {entries : Fields}
          (hd : d.document.objectAt? scope.location = some entries) :
          ∃ c, (do
              tell name added
              return (if added then 1 else 0) + (← insert rest) : Build Nat).run d =
                (.ok ((if added then 1 else 0) + (Fields.free (Fields.names entries) rest).length), c) ∧
            c.document = (d.document.modifyAt scope.location fun _ =>
              .object (entries ++ Fields.free (Fields.names entries) rest)) ∧ d.RendersLike c := by
        obtain ⟨e, htold, hdocument, hlike⟩ := htell name added d
        obtain ⟨c, hrun, hc, hafter⟩ := ih (by rw [hdocument]; exact hd)
        refine ⟨c, ?_, by rw [hc, hdocument], hlike.trans hafter⟩
        rw [run_bind, htold]
        dsimp only
        rw [run_bind, hrun]
        rfl
      rw [hcons, run_bind, add_run scope name body b h, Fields.free]
      by_cases hmem : name ∈ Fields.names entries
      · rw [if_pos hmem, if_pos hmem]
        obtain ⟨c, hrun, hc, hlike⟩ := hrest false h
        exact ⟨c, hrun.trans (by simp), hc, hlike⟩
      · rw [if_neg hmem, if_neg hmem]
        have hthere := Json.objectAt?_modifyAt_const (entries ++ [(name, body)]) h
        obtain ⟨c, hrun, hc, hlike⟩ := hrest true (d := { b with document := _ }) hthere
        rw [Fields.names_append] at hrun hc
        refine ⟨c, hrun.trans (by simp [Nat.add_comm]), ?_, hlike.ids, hlike.stamps, hlike.disk⟩
        rw [hc, Json.modifyAt_modifyAt]
        simp [Function.comp_def]

namespace Merges

theorem nothing {x : Build Nat} (hx : Tells x 0) : Merges w part place [] x := by
  intro b entries h
  refine ⟨fun offers d hrun => ?_, fun f d hrun => by cases hrun⟩
  cases hrun
  obtain ⟨c, hrun, hdocument, hlike⟩ := hx b
  refine ⟨c, hrun, ?_, hlike⟩
  rw [hdocument, Fields.free, List.append_nil, Json.modifyAt_const ((Json.objectAt?_eq_some_iff _ _ _).mp h)]

/-- One rendering, and what it offers is added. -/
theorem single {insert : Fields → Build Nat} (hinsert : ∀ offers, Adds place offers (insert offers))
    (item : Option Item) (snippet : Snippet) :
    Merges w part place [(item, snippet)] (do
      let value ← renderJson w item snippet true
      insert ((value.bind part).getD [])) := by
  intro b entries h
  have hcollected : collected w part [(item, snippet)] = do
      let value ← renderJson w item snippet true
      return (value.bind part).getD [] := by
    simp [collected]
  rw [hcollected, run_bind, run_bind]
  cases hrender : (renderJson w item snippet true).run b with
  | mk r e =>
      have hsame : e.document = b.document := Does.document_eq (fun _ => renderJson_acts _ _ _) hrender
      cases r with
      | error f =>
          refine ⟨fun offers d hrun => (by cases hrun), fun f' d hrun => ?_⟩
          cases hrun
          exact ⟨_, rfl⟩
      | ok value =>
          refine ⟨fun offers d hrun => ?_, fun f d hrun => by cases hrun⟩
          cases hrun
          rw [← hsame] at h ⊢
          exact hinsert _ h

/-- One merge after another. -/
theorem append {jobs jobs' : List (Option Item × Snippet)} {x y : Build Nat} (hx : Merges w part place jobs x)
    (hy : Merges w part place jobs' y) :
    Merges w part place (jobs ++ jobs') (do
      let added ← x
      return added + (← y)) := by
  intro b entries h
  rw [collected_append, run_bind, run_bind]
  cases hfirst : (collected w part jobs).run b with
  | mk r d =>
  cases r with
  | error f =>
      obtain ⟨c, hrun⟩ := (hx h).2 f d hfirst
      rw [hrun]
      refine ⟨fun offers d hrun => (by cases hrun), fun f' d hrun => ?_⟩
      cases hrun
      exact ⟨c, rfl⟩
  | ok offers =>
      obtain ⟨c, hrun, hdocument, hlike⟩ := (hx h).1 offers d hfirst
      rw [hrun]
      dsimp only
      rw [run_bind, run_bind]
      have hthere : c.document.objectAt? place = some (entries ++ Fields.free (Fields.names entries) offers) := by
        rw [hdocument]
        exact Json.objectAt?_modifyAt_const _ h
      cases hsecond : (collected w part jobs').run d with
      | mk r e =>
      -- The second renderings come to the same behind the first additions.
      obtain ⟨e', hsecond', hlike'⟩ := (Uniform.collected jobs').run_eq hlike hsecond
      cases r with
      | error f =>
          obtain ⟨g, hrun'⟩ := (hy hthere).2 f e' hsecond'
          rw [hrun']
          refine ⟨fun offers d hrun => (by cases hrun), fun f' d hrun => ?_⟩
          cases hrun
          exact ⟨g, rfl⟩
      | ok offers' =>
          obtain ⟨g, hrun', hdocument', hafter⟩ := (hy hthere).1 offers' e' hsecond'
          rw [hrun']
          refine ⟨fun all d hrun => ?_, fun f d hrun => by cases hrun⟩
          cases hrun
          rw [Fields.names_append] at hdocument' ⊢
          refine ⟨g, ?_, ?_, hlike'.trans hafter⟩
          · rw [Fields.free_append, List.length_append]
            rfl
          · rw [hdocument', hdocument, Json.modifyAt_modifyAt, Fields.free_append, List.append_assoc]
            rfl

theorem of_run_eq {jobs : List (Option Item × Snippet)} {x y : Build Nat}
    (h : ∀ b, (b.document.objectAt? place).isSome → x.run b = y.run b) (hy : Merges w part place jobs y) :
    Merges w part place jobs x := by
  intro b entries hentries
  rw [h b (by rw [hentries]; rfl)]
  exact hy hentries

end Merges

theorem insertTriggers_adds (channel : String) (offers : Fields) :
    Adds scope.location offers (insertTriggers w scope channel offers) := by
  let tell (name : String) (added : Bool) : Build Unit :=
    if added then
      debug declarationLogger "trigger_added"
        [("workflow", .string w.manager.name), ("trigger", .string name), ("channel", .string channel)]
    else pure ()
  refine adds_of_each tell (fun name added => ?_) rfl (fun name body rest => ?_) offers
  · cases added with
    | true => exact .debug _ _ _
    | false => exact .done _
  · rw [insertTriggers]
    refine bind_congr fun added => ?_
    cases added <;> simp [tell]

theorem insertDeclarations_adds (offers : Fields) :
    Adds scope.location offers (insertDeclarations w scope offers) := by
  let tell (name : String) (added : Bool) : Build Unit :=
    let fields : Fields := [("workflow", .string w.manager.name), ("name", .string name)]
    if added then debug declarationLogger "declaration_added" fields
    else warning declarationLogger "duplicate_declaration" fields
  refine adds_of_each tell (fun name added => ?_) rfl (fun name body rest => ?_) offers
  · cases added with
    | true => exact .debug _ _ _
    | false => exact .warning _ _ _
  · rw [insertDeclarations]
    refine bind_congr fun added => ?_
    cases added <;> rfl

/-- What a payload offers is a section of what was rendered. -/
theorem render_bind_eq {α : Type} (item : Option Item) (snippet : Snippet) (section_ : Payload → Option Fields)
    (insert : Fields → Build α) :
    (do
      let payload ← render w item snippet
      insert ((payload.bind section_).getD [])) = (do
      let value ← renderJson w item snippet true
      insert ((value.bind fun v => section_ (.ofJson v)).getD [])) := by
  simp only [render, bind_assoc, pure_bind, Option.bind_map]
  rfl

section Kinds

variable (k : DeclarationKind)

theorem declare_merges (item : Option Item) (snippet : Snippet) :
    Merges w (fun v => k.section_ (.ofJson v)) scope.location [(item, snippet)] (declare w k scope item snippet) := by
  rw [declare, render_bind_eq]
  exact .single insertDeclarations_adds item snippet

theorem declareFrom_merges (item : Option Item) (snippets : List Snippet) :
    Merges w (fun v => k.section_ (.ofJson v)) scope.location (snippets.map fun s => (item, s))
      (declareFrom w k scope item snippets) := by
  induction snippets with
  | nil => exact .nothing (.done 0)
  | cons snippet rest ih => exact (declare_merges k item snippet).append ih

theorem declareItems_merges (placeholder : Option Snippet) (items : List Item) :
    Merges w (fun v => k.section_ (.ofJson v)) scope.location
      (items.flatMap fun item => placeholder.toList.map fun s => (some item, s))
      (declareItems w k scope placeholder items) := by
  induction items with
  | nil => exact .nothing (.done 0)
  | cons item rest ih =>
      rw [List.flatMap_cons]
      cases placeholder with
      | none =>
          have htold : Tells (do
              debug declarationLogger "declaration_placeholder_missing"
                [("workflow", .string w.manager.name), ("kind", .string k.name), ("name", .string item.name)]
              Pure.pure 0) 0 := fun _ => ⟨_, rfl, rfl, rfl, rfl, rfl⟩
          exact (Merges.nothing htold).append ih
      | some snippet => exact (declare_merges k (some item) snippet).append ih

end Kinds

end Merge

/-- What is rendered for the declarations of a kind: the kind's own snippets for the workflow, and then the placeholder
for all that is declared in the workflow. -/
def declarationJobs (w : Workshop) (k : DeclarationKind) : List (Option Item × Snippet) :=
  ((w.manager.snippetsUnder (Snippet.key k.name none)).map fun s => (modelItem w, s)) ++
    ((w.manager.workflow.map k.items).getD []).flatMap fun item =>
      (w.manager.findSnippet (Snippet.placeholderKey k.name)).toList.map fun s => (some item, s)

/-- What is rendered for triggers: for each channel that starts the workflow, all snippets of triggers. -/
def triggerJobs (w : Workshop) : List (Option Item × Snippet) :=
  (activatorsOf w).flatMap fun _ =>
    (w.manager.snippetsBelow (Snippet.familyPrefix (Snippet.key "channel.trigger" none))).map fun s => (modelItem w, s)

/-- What is rendered for parameters. -/
def parameterJobs (w : Workshop) : List (Option Item × Snippet) :=
  (w.manager.snippetsUnder Snippet.parameterKey).map fun s => (modelItem w, s)

section Additions

variable {w : Workshop}

theorem collection_run {document : Json} {name : String} (h : (document.objectAt? ["definition", name]).isSome) :
    Document.collection? document name = some ⟨[], ["definition", name]⟩ := by
  rw [Document.collection?]
  exact if_pos h

theorem addDeclarations_run (k : DeclarationKind) {b : Bench}
    (h : (b.document.objectAt? ["definition", "actions"]).isSome) :
    (addDeclarations w k).run b = (do
      let scope : Scope := ⟨[], ["definition", "actions"]⟩
      let general ← declareFrom w k scope (modelItem w) (w.manager.snippetsUnder (Snippet.key k.name none))
      match w.manager.workflow with
      | none => return general
      | some flow =>
        let placeholder := w.manager.findSnippet (Snippet.placeholderKey k.name)
        return general + (← declareItems w k scope placeholder (k.items flow)) : Build Nat).run b := by
  rewrite [addDeclarations, run_get_bind, Document.actions?, collection_run h]
  rfl

theorem addDeclarations_merges (k : DeclarationKind) :
    Merges w (fun v => k.section_ (.ofJson v)) ["definition", "actions"] (declarationJobs w k)
      (addDeclarations w k) := by
  let scope : Scope := ⟨[], ["definition", "actions"]⟩
  have hgeneral : Merges w (fun v => k.section_ (.ofJson v)) scope.location _
      (declareFrom w k scope (modelItem w) (w.manager.snippetsUnder (Snippet.key k.name none))) :=
    declareFrom_merges k _ _
  refine .of_run_eq (fun _ => addDeclarations_run k) ?_
  unfold declarationJobs
  cases w.manager.workflow with
  | none =>
      rw [Option.map_none, Option.getD_none, List.flatMap_nil]
      have hboth := hgeneral.append (.nothing (.done 0))
      simpa using hboth
  | some flow => exact hgeneral.append (declareItems_merges k _ _)

theorem triggersFor_merges (scope : Scope) (channel : Channel) (snippets : List Snippet) :
    Merges w (fun v => (Payload.ofJson v).triggers) scope.location (snippets.map fun s => (modelItem w, s))
      (triggersFor w scope channel snippets) := by
  induction snippets with
  | nil => exact .nothing (.done 0)
  | cons snippet rest ih =>
      have hfirst : Merges w (fun v => (Payload.ofJson v).triggers) scope.location [(modelItem w, snippet)] (do
          let payload ← render w (modelItem w) snippet
          insertTriggers w scope channel.element.name ((payload.bind (·.triggers)).getD [])) := by
        rw [render_bind_eq]
        exact .single (insertTriggers_adds _) _ _
      have hboth := hfirst.append ih
      simp only [bind_assoc] at hboth
      exact hboth

theorem triggersForAll_merges (scope : Scope) (snippets : List Snippet) (channels : List Channel) :
    Merges w (fun v => (Payload.ofJson v).triggers) scope.location
      (channels.flatMap fun _ => snippets.map fun s => (modelItem w, s))
      (triggersForAll w scope snippets channels) := by
  induction channels with
  | nil => exact .nothing (.done 0)
  | cons channel rest ih => exact (triggersFor_merges scope channel snippets).append ih

theorem addTriggers_merges :
    Merges w (fun v => (Payload.ofJson v).triggers) ["definition", "triggers"] (triggerJobs w) (addTriggers w) := by
  unfold triggerJobs addTriggers
  rw [← activatorsOf]
  dsimp only
  split
  · next hchannels =>
      rw [List.isEmpty_iff.mp hchannels, List.flatMap_nil]
      exact .nothing (.done 0)
  · split
    · next hsnippets =>
        rw [List.isEmpty_iff.mp hsnippets, List.map_nil, List.flatMap_eq_nil_iff.mpr fun _ _ => rfl]
        exact .nothing fun _ => ⟨_, rfl, rfl, rfl, rfl, rfl⟩
    · refine .of_run_eq (fun b hb => ?_) (triggersForAll_merges ⟨[], ["definition", "triggers"]⟩ _ _)
      rw [run_get_bind, Document.triggers?, collection_run hb]

/-- Parameters are added to a skeleton one by one, each unless its name is taken. -/
theorem insertParameters_tells (skeleton offers : Fields) :
    Tells (insertParameters w skeleton offers) ((Fields.free (Fields.names skeleton) offers).length,
      skeleton ++ Fields.free (Fields.names skeleton) offers) := by
  induction offers generalizing skeleton with
  | nil =>
      rw [Fields.free, List.append_nil]
      exact .done _
  | cons offer rest ih =>
      obtain ⟨name, value⟩ := offer
      intro b
      rw [insertParameters, Fields.free]
      dsimp only
      by_cases hmem : name ∈ Fields.names skeleton
      · rw [if_pos ((Fields.has_iff _ _).mpr hmem), if_pos hmem]
        obtain ⟨d, htold, hdocument, hlike⟩ := Tells.warning declarationLogger "duplicate_parameter"
          [("workflow", .string w.manager.name), ("parameter", .string name)] b
        obtain ⟨c, hrun, hc, hafter⟩ := ih skeleton d
        refine ⟨c, ?_, hc.trans hdocument, hlike.trans hafter⟩
        rw [run_bind, htold]
        exact hrun
      · rw [if_neg fun h => hmem ((Fields.has_iff _ _).mp h), if_neg hmem]
        obtain ⟨d, htold, hdocument, hlike⟩ := Tells.debug declarationLogger "parameter_added"
          [("workflow", .string w.manager.name), ("parameter", .string name)] b
        obtain ⟨c, hrun, hc, hafter⟩ := ih (skeleton ++ [(name, value)]) d
        rw [Fields.names_append] at hrun
        refine ⟨c, ?_, hc.trans hdocument, hlike.trans hafter⟩
        rw [run_bind, htold]
        dsimp only
        rw [run_bind, hrun, List.append_assoc]
        rfl

theorem MergesOnto.nothing {part : Json → Option Fields} {skeleton : Fields} {x : Build (Nat × Fields)}
    (hx : Tells x (0, skeleton)) : MergesOnto w part [] skeleton x := by
  intro b
  refine ⟨fun offers d hrun => ?_, fun f d hrun => by cases hrun⟩
  cases hrun
  rw [Fields.free, List.append_nil]
  exact hx b

theorem parametersFrom_merges (skeleton : Fields) (snippets : List Snippet) :
    MergesOnto w Json.asObject? (snippets.map fun s => (modelItem w, s)) skeleton
      (parametersFrom w skeleton snippets) := by
  induction snippets generalizing skeleton with
  | nil => exact .nothing (.done _)
  | cons snippet rest ih =>
      intro b
      rw [List.map_cons, collected, parametersFrom, run_bind, run_bind]
      cases hrender : (renderJson w (modelItem w) snippet true).run b with
      | mk r d =>
      have hsame : d.document = b.document := Does.document_eq (fun _ => renderJson_acts _ _ _) hrender
      cases r with
      | error f =>
          refine ⟨fun offers d hrun => (by cases hrun), fun f' d hrun => ?_⟩
          cases hrun
          exact ⟨_, rfl, hsame⟩
      | ok value =>
          let offers := (value.bind Json.asObject?).getD []
          obtain ⟨e, hinsert, hdocument, hlike⟩ := insertParameters_tells (w := w) skeleton offers d
          have hafter := ih (skeleton ++ Fields.free (Fields.names skeleton) offers) e
          dsimp only
          rw [run_bind, run_bind, hinsert]
          dsimp only
          rw [run_bind]
          cases hrest : (collected w Json.asObject? (rest.map fun s => (modelItem w, s))).run d with
          | mk r g =>
          -- The other renderings come to the same behind the first parameters.
          obtain ⟨g', hrest', hlike'⟩ := (Uniform.collected _).run_eq hlike hrest
          cases r with
          | error f =>
              obtain ⟨c, hrun, hc⟩ := hafter.2 f g' hrest'
              rw [hrun]
              refine ⟨fun offers d hrun => (by cases hrun), fun f' d hrun => ?_⟩
              cases hrun
              exact ⟨c, rfl, hc.trans (hdocument.trans hsame)⟩
          | ok others =>
              obtain ⟨c, hrun, hc, hlast⟩ := hafter.1 others g' hrest'
              rw [hrun]
              refine ⟨fun all d hrun => ?_, fun f d hrun => by cases hrun⟩
              cases hrun
              refine ⟨c, ?_, hc.trans (hdocument.trans hsame), hlike'.trans hlast⟩
              rw [Fields.free_append, List.length_append, ← Fields.names_append, List.append_assoc]
              rfl

theorem addParameters_merges (skeleton : Fields) :
    MergesOnto w Json.asObject? (parameterJobs w) skeleton (addParameters w skeleton) := by
  unfold parameterJobs addParameters
  split
  · next hsnippets =>
      rw [hsnippets, List.map_nil]
      exact .nothing fun _ => ⟨_, rfl, rfl, rfl, rfl, rfl⟩
  · exact parametersFrom_merges skeleton _

end Additions

end Build

open Build in
/-- Variables, messages and triggers are merged into their collections, and parameters into a skeleton, by first
occurrence of a new name, each from its own renderings in their order. What is declared in a workflow is rendered for
container by container, for every container that is reached in the workflow and in the order of their paths, and in each
container in the order of its declarations. -/
theorem declarations_merge_in_order (w : Workshop) :
    Merges w (fun v => (Payload.ofJson v).vars) ["definition", "actions"] (declarationJobs w .vars) (addVariables w) ∧
    Merges w (fun v => (Payload.ofJson v).messages) ["definition", "actions"] (declarationJobs w .messages)
      (addMessages w) ∧
    Merges w (fun v => (Payload.ofJson v).triggers) ["definition", "triggers"] (triggerJobs w) (addTriggers w) ∧
    (∀ skeleton, MergesOnto w Json.asObject? (parameterJobs w) skeleton (addParameters w skeleton)) ∧
    ∀ flow : Workflow, ∃ paths : List (List Nat), paths.Pairwise (· < ·) ∧
      (∀ path, path ∈ paths ↔ ∃ c, flow.root.at? path = some c ∧ c.isContainer = true) ∧
      flow.variableItems = (paths.flatMap fun path => (flow.root.at? path).toList.flatMap fun c =>
        c.vars.zipIdx.map fun (v, i) => ⟨{ Place.workflow.below path with part := .variableAt i }, .stored v⟩) ∧
      flow.messageItems = (paths.flatMap fun path => (flow.root.at? path).toList.flatMap fun c =>
        c.messages.zipIdx.map fun (m, i) => ⟨{ Place.workflow.below path with part := .messageAt i }, .message m⟩) :=
  ⟨addDeclarations_merges .vars, addDeclarations_merges .messages, addTriggers_merges, addParameters_merges, fun flow =>
    ⟨flow.containerPaths, flow.containerPaths_pairwise, flow.mem_containerPaths, flow.variableItems_eq,
      flow.messageItems_eq⟩⟩

/-- Variables in the workflow itself, in a container and in a container in that. -/
def declaringWorkflow : Workflow :=
  { (default : Workflow) with
    vars := [default]
    activities := [.container default [.container default [] [default] []] [default, default] []] }

/-- A workshop with a snippet for variables in general and one for each variable. -/
def declaringWorkshop : Workshop :=
  { plainWorkshop with
    manager :=
      { plainWorkshop.manager with
        workflow := some declaringWorkflow
        snippets :=
          [⟨Snippet.key "variable" none, "general.json", none⟩,
            ⟨Snippet.placeholderKey "variable", "each.json", none⟩] } }

def declaringBench : Bench :=
  { plainBench with
    document := .object [("definition", .object [("actions", .object [("A", .null)])])]
    disk :=
      { plainBench.disk with
        entries :=
          [(["general.json"], .file (.text "\x7b\"workflowDefinitionVariable\": \x7b\"A\": 1, \"B\": 2\x7d\x7d")),
            (["each.json"], .file (.text "\x7b\"workflowDefinitionVariable\": \x7b\"B\": 3, \"C\": 4\x7d\x7d"))] } }

open Build in
/-- One rendering in general and one for each of the four variables offer ten entries, and two of them come in. -/
theorem declarations_merge_in_order_nested :
    ∃ offers d c, (collected declaringWorkshop (fun v => (Payload.ofJson v).vars)
        (declarationJobs declaringWorkshop .vars)).run declaringBench = (.ok offers, d) ∧
      Fields.names offers = ["A", "B", "B", "C", "B", "C", "B", "C", "B", "C"] ∧
      (addVariables declaringWorkshop).run declaringBench = (.ok 2, c) ∧
      (c.document.objectAt? ["definition", "actions"]).map Fields.names = some ["A", "B", "C"] := by
  obtain ⟨offers, d, hcollected, hnames, hfree⟩ : ∃ offers d, (collected declaringWorkshop
      (fun v => (Payload.ofJson v).vars) (declarationJobs declaringWorkshop .vars)).run declaringBench =
        (.ok offers, d) ∧ Fields.names offers = ["A", "B", "B", "C", "B", "C", "B", "C", "B", "C"] ∧
      Fields.names (Fields.free ["A"] offers) = ["B", "C"] :=
    Build.exists_run _ (by decide +kernel)
  have hthere : declaringBench.document.objectAt? ["definition", "actions"] = some [("A", .null)] := rfl
  obtain ⟨c, hrun, hdocument, _⟩ := ((declarations_merge_in_order declaringWorkshop).1 hthere).1 offers d hcollected
  have hcount : (Fields.free ["A"] offers).length = 2 := by
    have hlength := congrArg List.length hfree
    rwa [Fields.names, List.length_map] at hlength
  refine ⟨offers, d, c, hcollected, hnames, ?_, ?_⟩
  · rw [hrun]
    exact congrArg (fun n => (Except.ok n, c)) hcount
  · rw [hdocument, Json.objectAt?_modifyAt_const _ hthere, Option.map_some, Fields.names_append]
    exact congrArg (fun names => some (["A"] ++ names)) hfree

end WorkflowForge
