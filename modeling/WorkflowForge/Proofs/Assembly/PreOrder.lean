import WorkflowForge.Proofs.Assembly.DeclarationMerge
import WorkflowForge.Proofs.Assembly.Surfacing

/-!
The order of assembly. To assemble a workflow is to convert it and then to walk through its activities in pre-order, each
before those inside it and these before the ones behind it. On the walk it is noted which containers were converted and
which scope each of them gave for its children: an activity is converted in the scope of the container around it, and it
is passed over if that container was skipped or passed over itself. So the containers are converted in the order in
which the workflow lists them, all of them if none is skipped.
-/

namespace WorkflowForge

/-- Below one child of a place nothing is below another. -/
theorem Place.index_eq_of_isPrefix {place : Place} {i j : Nat} {path : List Nat} (hi : (place.child i).path <+: path)
    (hj : (place.child j).path <+: path) : i = j := by
  have hle : (place.child i).path.length ≤ (place.child j).path.length := by simp [child]
  have heq := (List.prefix_of_prefix_length_le hi hj hle).eq_of_length (by simp [child])
  simpa [child] using heq

namespace Activity

mutual

/-- The activities of a tree with their places, each before those inside it. -/
def nodesAt (place : Place) : Activity → List (Place × Activity)
  | .leaf e => [(place, .leaf e)]
  | .container e activities vars messages =>
    (place, .container e activities vars messages) :: nodesIn place 0 activities

def nodesIn (place : Place) (index : Nat) : List Activity → List (Place × Activity)
  | [] => []
  | a :: rest => nodesAt (place.child index) a ++ nodesIn place (index + 1) rest

end

mutual

theorem map_containersAt (place : Place) : (a : Activity) → (containersAt place a).map (·.2) = a.containers
  | .leaf e => rfl
  | .container e activities vars messages => by
      rw [containersAt, containers, List.map_cons, map_containersAtIn place 0 activities]

theorem map_containersAtIn (place : Place) (index : Nat) : (activities : List Activity) →
    (containersAtIn place index activities).map (·.2) = containersIn activities
  | [] => rfl
  | a :: rest => by
      rw [containersAtIn, containersIn, List.map_append, map_containersAt (place.child index) a,
        map_containersAtIn place (index + 1) rest]

end

/-- The paths of the containers of a tree whose top has the given place. -/
def pathsAt (place : Place) (a : Activity) : List (List Nat) := (containersAt place a).map (·.1.path)

def pathsIn (place : Place) (index : Nat) (activities : List Activity) : List (List Nat) :=
  (containersAtIn place index activities).map (·.1.path)

theorem isPrefix_of_mem_pathsAt {place : Place} {a : Activity} {path : List Nat} (h : path ∈ pathsAt place a) :
    place.path <+: path := by
  obtain ⟨c, hc, rfl⟩ := List.mem_map.mp h
  obtain ⟨below, hplace, _⟩ := exists_at?_of_mem_containersAt place a c hc
  rw [hplace]
  exact List.prefix_append place.path below

mutual

theorem isPrefix_of_mem_nodesAt (place : Place) : (a : Activity) → ∀ node ∈ nodesAt place a, place.path <+: node.1.path
  | .leaf e => by
      rw [nodesAt, List.forall_mem_singleton]
  | .container e activities vars messages => by
      rw [nodesAt, List.forall_mem_cons]
      refine ⟨List.prefix_refl _, fun node hnode => ?_⟩
      exact (isPrefix_of_mem_nodesIn place 0 activities node hnode).trans (List.dropLast_prefix _)

/-- The container around each activity in a tree is the top of the tree or below it. -/
theorem isPrefix_of_mem_nodesIn (place : Place) (index : Nat) : (activities : List Activity) →
    ∀ node ∈ nodesIn place index activities, place.path <+: node.1.path.dropLast
  | [] => nofun
  | a :: rest => by
      rw [nodesIn, List.forall_mem_append]
      refine ⟨fun node hnode => ?_, isPrefix_of_mem_nodesIn place (index + 1) rest⟩
      obtain ⟨below, hbelow⟩ := isPrefix_of_mem_nodesAt (place.child index) a node hnode
      rw [← hbelow, Place.child, List.append_assoc, List.dropLast_append_of_ne_nil (by simp)]
      exact List.prefix_append place.path _

end

end Activity

/-- The containers that were converted, one after the other: the path of each, and the scope that it gave for its
children, none where it was skipped. -/
abbrev Conversions := List (List Nat × Option Scope)

namespace Conversions

/-- The scope of the container at a path, if it was converted and not skipped. -/
def scopeAt? (converted : Conversions) (path : List Nat) : Option Scope := (converted.lookup path).join

def paths (converted : Conversions) : List (List Nat) := converted.map (·.1)

def NoneSkipped (converted : Conversions) : Prop := ∀ c ∈ converted, c.2.isSome = true

theorem paths_append (converted more : Conversions) :
    (converted ++ more : Conversions).paths = converted.paths ++ more.paths := List.map_append

theorem scopeAt?_opened (path : List Nat) (scope : Scope) :
    scopeAt? [(path, some scope)] path = some scope := by
  simp [scopeAt?]

theorem scopeAt?_skipped (path other : List Nat) : scopeAt? [(path, none)] other = none := by
  rw [scopeAt?, List.lookup_cons]
  split <;> rfl

theorem scopeAt?_append_right {converted : Conversions} {path : List Nat} (h : path ∉ converted.paths)
    (more : Conversions) : (converted ++ more : Conversions).scopeAt? path = more.scopeAt? path := by
  have hlookup : converted.lookup path = none := by
    rw [List.lookup_eq_none_iff]
    intro c hc
    rw [bne_iff_ne]
    exact fun heq => h (heq ▸ List.mem_map_of_mem hc)
  rw [scopeAt?, List.lookup_append, hlookup]
  rfl

theorem scopeAt?_append_left {converted : Conversions} {path : List Nat} {scope : Scope}
    (h : converted.scopeAt? path = some scope) (more : Conversions) :
    (converted ++ more : Conversions).scopeAt? path = some scope := by
  have hlookup : converted.lookup path = some (some scope) := Option.join_eq_some_iff.mp h
  rw [scopeAt?, List.lookup_append, hlookup]
  rfl

end Conversions

namespace Build

/-- Converts a container and, unless it is skipped, adds the pre-built actions of its type. -/
def enter (w : Workshop) (r : Registry) (item : Item) (parent : Scope) : Build (Option Scope) := do
  match ← (r.containerHandler item.type).convert w item parent with
  | none =>
    debug "flowsmith.assembly.assembler" "container_skipped"
      [("workflow", .string w.manager.name), ("container", .string item.name)]
    return none
  | some scope =>
    stock w item scope
    return some scope

/-- Converts one activity in the scope of the container around it, or passes over it if there is no such scope. -/
def visit (w : Workshop) (r : Registry) (converted : Conversions) (node : Place × Activity) : Build Conversions :=
  match converted.scopeAt? node.1.path.dropLast with
  | none => return converted
  | some scope =>
    if node.2.isContainer then do
      let opened ← enter w r (.ofActivity node.1 node.2) scope
      return converted ++ [(node.1.path, opened)]
    else do
      let _ ← (r.activityHandler node.2.element.type).convert w (.ofActivity node.1 node.2) scope
      return converted

/-- Converts a workflow and then its activities in pre-order. -/
def walk (w : Workshop) (r : Registry) (flow : Workflow) (parent : Scope) : Build Conversions := do
  let opened ← enter w r (.ofWorkflow flow) parent
  (Activity.nodesIn .workflow 0 flow.activities).foldlM (visit w r) [([], opened)]

theorem assembleContainer_enter (w : Workshop) (r : Registry) (item : Item) (parent : Scope)
    (children : Scope → Build Unit) :
    assembleContainer w r item parent children = (do
      match ← enter w r item parent with
      | none => return false
      | some scope =>
        children scope
        return true) := by
  unfold assembleContainer enter
  rw [bind_assoc]
  refine congrArg _ (funext fun opened => ?_)
  cases opened with
  | none => rfl
  | some scope =>
      unfold stock
      simp only [bind_assoc]
      refine bind_congr fun count => ?_
      split <;> simp

theorem discard_bind (x : Build α) (y : Build β) : (do discard x; y) = x >>= fun _ => y := by
  rw [Functor.discard, map_const]
  exact bind_map_left _ _ _

/-- A build of two steps fails in the first, or in the second where the first ended. -/
theorem run_bind_error {x : Build α} {f : α → Build β} {b c : Bench} {e : Fault}
    (h : (x >>= f).run b = (.error e, c)) :
    x.run b = (.error e, c) ∨ ∃ a d, x.run b = (.ok a, d) ∧ (f a).run d = (.error e, c) := by
  rw [run_bind] at h
  cases hrun : x.run b with
  | mk result d =>
      rw [hrun] at h
      cases result with
      | error e =>
          cases h
          exact .inl rfl
      | ok a => exact .inr ⟨a, d, rfl, h⟩

/-- What was converted on the way through containers at the given paths: some of them in their order, and all if none
was skipped. -/
structure Covers (paths : List (List Nat)) (more : Conversions) : Prop where
  sublist : more.paths.Sublist paths
  all : more.NoneSkipped → more.paths = paths

/-- A walk that starts with some conversions noted goes like a build through containers at the given paths: it fails
where the build fails, and otherwise it ends at the same bench, with what was converted noted behind. -/
structure GoesLike (x : Build α) (paths : List (List Nat)) (converted : Conversions) (walk : Build Conversions) :
    Prop where
  done : ∀ ⦃b c : Bench⦄ ⦃a : α⦄, x.run b = (.ok a, c) →
    ∃ more, Covers paths more ∧ walk.run b = (.ok (converted ++ more), c)
  stopped : ∀ ⦃b c : Bench⦄ ⦃f : Fault⦄, x.run b = (.error f, c) → walk.run b = (.error f, c)

namespace Covers

theorem nil : Covers [] [] := ⟨.refl _, fun _ => rfl⟩

theorem append {first second : List (List Nat)} {more others : Conversions} (h₁ : Covers first more)
    (h₂ : Covers second others) : Covers (first ++ second) (more ++ others) := by
  have hpaths := Conversions.paths_append more others
  refine ⟨hpaths ▸ h₁.sublist.append h₂.sublist, fun hnone => ?_⟩
  rw [hpaths, h₁.all fun c hc => hnone c (List.mem_append_left _ hc),
    h₂.all fun c hc => hnone c (List.mem_append_right _ hc)]

theorem opened (path : List Nat) (scope : Scope) : Covers [path] [(path, some scope)] := ⟨.refl _, fun _ => rfl⟩

/-- Nothing in a container that is skipped is converted. -/
theorem skipped (path : List Nat) (inside : List (List Nat)) : Covers (path :: inside) [(path, none)] :=
  ⟨(List.nil_sublist inside).cons_cons path, fun hnone => nomatch hnone _ List.mem_cons_self⟩

end Covers

namespace GoesLike

variable {w : Workshop} {r : Registry} {x : Build α} {paths : List (List Nat)} {converted : Conversions}
variable {walk : Build Conversions}

theorem bind {y : Build β} {others : List (List Nat)} {next : Conversions → Build Conversions}
    (hx : GoesLike x paths converted walk)
    (hy : ∀ more : Conversions, more.paths.Sublist paths →
      GoesLike y others (converted ++ more) (next (converted ++ more))) :
    GoesLike (x >>= fun _ => y) (paths ++ others) converted (walk >>= next) where
  done b c a h := by
    obtain ⟨_, d, hfirst, hsecond⟩ := run_bind_ok h
    obtain ⟨more, hmore, hwalk⟩ := hx.done hfirst
    obtain ⟨rest, hrest, hnext⟩ := (hy more hmore.sublist).done hsecond
    refine ⟨more ++ rest, hmore.append hrest, ?_⟩
    rw [run_bind, hwalk, ← List.append_assoc]
    exact hnext
  stopped b c f h := by
    rw [run_bind]
    rcases run_bind_error h with hfirst | ⟨_, d, hfirst, hsecond⟩
    · rw [hx.stopped hfirst]
    · obtain ⟨more, hmore, hwalk⟩ := hx.done hfirst
      rw [hwalk]
      exact (hy more hmore.sublist).stopped hsecond

/-- A value that is the same wherever the walk ends. -/
theorem bind_pure_eq {f : Conversions → β} {v : β} (h : GoesLike x paths converted walk)
    (hf : ∀ more, f (converted ++ more) = v) :
    (x >>= fun _ => pure v) = walk >>= fun noted => pure (f noted) := by
  refine funext fun b => ?_
  change (x >>= fun _ => pure v).run b = (walk >>= fun noted => pure (f noted)).run b
  rw [run_bind, run_bind]
  cases hx : x.run b with
  | mk result c =>
      cases result with
      | error e => rw [h.stopped hx]
      | ok a =>
          obtain ⟨more, _, hwalk⟩ := h.done hx
          rw [hwalk, ← hf more]

/-- A build at which nothing is noted. -/
theorem unnoted (x : Build α) (converted : Conversions) : GoesLike x [] converted (x >>= fun _ => pure converted) where
  done b c a h := by
    refine ⟨[], .nil, ?_⟩
    rw [List.append_nil, run_bind, h]
    rfl
  stopped b c f h := by rw [run_bind, h]

/-- A container is noted when it is entered. If it is skipped nothing more may be noted, and otherwise the walk goes on
like the build of its children. -/
theorem entered {item : Item} {parent : Scope} {children : Scope → Build Unit} {path : List Nat}
    {inside : List (List Nat)} (next : Conversions → Build Conversions)
    (hskipped : next (converted ++ [(path, none)]) = pure (converted ++ [(path, none)]))
    (hchildren : ∀ scope, GoesLike (children scope) inside (converted ++ [(path, some scope)])
      (next (converted ++ [(path, some scope)]))) :
    GoesLike (assembleContainer w r item parent children) (path :: inside) converted
      (enter w r item parent >>= fun opened => next (converted ++ [(path, opened)])) where
  done b c a h := by
    rw [assembleContainer_enter] at h
    obtain ⟨opened, d, henter, h⟩ := run_bind_ok h
    rw [run_bind, henter]
    cases opened with
    | none =>
        cases h
        refine ⟨[(path, none)], .skipped path inside, ?_⟩
        change (next (converted ++ [(path, none)])).run c = _
        rw [hskipped]
        rfl
    | some scope =>
        obtain ⟨_, e, hinside, h⟩ := run_bind_ok h
        cases h
        obtain ⟨more, hmore, hnext⟩ := (hchildren scope).done hinside
        refine ⟨(path, some scope) :: more, (Covers.opened path scope).append hmore, ?_⟩
        rwa [List.append_assoc] at hnext
  stopped b c f h := by
    rw [assembleContainer_enter] at h
    rw [run_bind]
    rcases run_bind_error h with henter | ⟨opened, d, henter, h⟩
    · rw [henter]
    · rw [henter]
      cases opened with
      | none => cases h
      | some scope =>
          rcases run_bind_error h with hinside | ⟨_, _, _, h⟩
          · exact (hchildren scope).stopped hinside
          · cases h

end GoesLike

section Visits

variable {w : Workshop} {r : Registry} {converted : Conversions} {place : Place} {scope : Scope}

theorem visit_leaf (h : converted.scopeAt? place.path.dropLast = some scope) (e : Element) :
    visit w r converted (place, .leaf e) =
      (r.activityHandler e.type).convert w (.ofActivity place (.leaf e)) scope >>= fun _ => pure converted := by
  unfold visit
  rw [h]
  rfl

theorem visit_container (h : converted.scopeAt? place.path.dropLast = some scope) {a : Activity}
    (ha : a.isContainer = true) :
    visit w r converted (place, a) =
      enter w r (.ofActivity place a) scope >>= fun opened => pure (converted ++ [(place.path, opened)]) := by
  unfold visit
  rw [h]
  exact if_pos ha

/-- Activities in containers without a scope are passed over. -/
theorem foldlM_visit_closed {nodes : List (Place × Activity)}
    (h : ∀ node ∈ nodes, converted.scopeAt? node.1.path.dropLast = none) :
    nodes.foldlM (visit w r) converted = pure converted := by
  induction nodes with
  | nil => rfl
  | cons node rest ih =>
      obtain ⟨hnode, hrest⟩ := List.forall_mem_cons.mp h
      have hvisit : visit w r converted node = pure converted := by
        unfold visit
        rw [hnode]
      rw [List.foldlM_cons, hvisit, pure_bind, ih hrest]

end Visits

variable {w : Workshop} {r : Registry}

mutual

/-- The walk through a tree goes like its assembly, if the container around it has a scope and nothing in the tree was
converted before. -/
theorem assembleActivity_goesLike (place : Place) (parent : Scope) (converted : Conversions) : (a : Activity) →
    converted.scopeAt? place.path.dropLast = some parent → (∀ path ∈ converted.paths, ¬ place.path <+: path) →
      GoesLike (assembleActivity w r place parent a) (Activity.pathsAt place a) converted
        ((Activity.nodesAt place a).foldlM (visit w r) converted)
  | .leaf e, hparent, _ => by
      have hfold : (Activity.nodesAt place (.leaf e)).foldlM (visit w r) converted =
          visit w r converted (place, .leaf e) := bind_pure _
      rw [hfold, visit_leaf hparent, assembleActivity]
      exact .unnoted _ converted
  | .container e activities vars messages, hparent, hnew => by
      have hfree : ∀ path, place.path <+: path → path ∉ converted.paths :=
        fun path hprefix hmem => hnew path hmem hprefix
      rw [Activity.nodesAt, List.foldlM_cons, visit_container hparent rfl, bind_assoc, assembleActivity]
      simp only [pure_bind]
      refine .entered (fun noted => (Activity.nodesIn place 0 activities).foldlM (visit w r) noted)
        (foldlM_visit_closed fun node hnode => ?_) fun scope => ?_
      · have hbelow := Activity.isPrefix_of_mem_nodesIn place 0 activities node hnode
        rw [Conversions.scopeAt?_append_right (hfree _ hbelow), Conversions.scopeAt?_skipped]
      · refine assembleActivities_goesLike place scope 0 _ activities ?_ fun path hpath i _ hprefix => ?_
        · rw [Conversions.scopeAt?_append_right (hfree _ (List.prefix_refl _))]
          exact Conversions.scopeAt?_opened place.path scope
        · rw [Conversions.paths_append, List.mem_append] at hpath
          rcases hpath with hold | hown
          · exact hnew path hold ((List.prefix_append place.path [i]).trans hprefix)
          · obtain rfl : path = place.path := List.mem_singleton.mp hown
            exact absurd hprefix.length_le (by simp [Place.child])

theorem assembleActivities_goesLike (place : Place) (scope : Scope) (index : Nat) (converted : Conversions) :
    (activities : List Activity) → converted.scopeAt? place.path = some scope →
      (∀ path ∈ converted.paths, ∀ i, index ≤ i → ¬ (place.child i).path <+: path) →
      GoesLike (assembleActivities w r place scope index activities) (Activity.pathsIn place index activities) converted
        ((Activity.nodesIn place index activities).foldlM (visit w r) converted)
  | [], _, _ => .unnoted (pure ()) converted
  | a :: rest, hscope, hnew => by
      have hfirst : GoesLike (assembleActivity w r (place.child index) scope a) _ converted _ :=
        assembleActivity_goesLike (place.child index) scope converted a
          (by rwa [Place.child, List.dropLast_concat]) fun path hpath => hnew path hpath index (Nat.le_refl index)
      have hpaths : Activity.pathsIn place index (a :: rest) =
          Activity.pathsAt (place.child index) a ++ Activity.pathsIn place (index + 1) rest := List.map_append
      rw [Activity.nodesIn, List.foldlM_append, assembleActivities, discard_bind, hpaths]
      refine hfirst.bind fun more hmore => ?_
      refine assembleActivities_goesLike place scope (index + 1) _ rest (Conversions.scopeAt?_append_left hscope more)
        fun path hpath i hi hprefix => ?_
      rw [Conversions.paths_append, List.mem_append] at hpath
      rcases hpath with hold | hfound
      · exact hnew path hold i (Nat.le_of_succ_le hi) hprefix
      · have hother := Activity.isPrefix_of_mem_pathsAt (hmore.subset hfound)
        exact absurd (Place.index_eq_of_isPrefix hother hprefix) (by omega)

end

section Walk

variable (flow : Workflow) (parent : Scope)

theorem walk_skipped : (Activity.nodesIn .workflow 0 flow.activities).foldlM (visit w r) [([], none)] =
    pure [([], none)] :=
  foldlM_visit_closed fun _ _ => Conversions.scopeAt?_skipped ..

theorem walk_opened (scope : Scope) :
    GoesLike (assembleActivities w r .workflow scope 0 flow.activities)
      (Activity.pathsIn .workflow 0 flow.activities) [([], some scope)]
      ((Activity.nodesIn .workflow 0 flow.activities).foldlM (visit w r) [([], some scope)]) := by
  refine assembleActivities_goesLike .workflow scope 0 _ _ (Conversions.scopeAt?_opened [] scope) ?_
  rintro path hpath i - hprefix
  obtain rfl : path = [] := List.mem_singleton.mp hpath
  exact absurd hprefix.length_le (by simp [Place.child])

/-- To assemble a workflow is to walk through it, and the answer is whether it was converted itself. -/
theorem assembleWorkflow_eq_walk :
    assembleWorkflow w r flow parent = (do return ((← walk w r flow parent).scopeAt? []).isSome) := by
  rw [assembleWorkflow, assembleContainer_enter, walk, bind_assoc]
  refine bind_congr fun opened => ?_
  cases opened with
  | none => rw [walk_skipped, pure_bind, Conversions.scopeAt?_skipped, Option.isSome_none]
  | some scope =>
      refine (walk_opened flow scope).bind_pure_eq fun more => ?_
      rw [Conversions.scopeAt?_append_left (Conversions.scopeAt?_opened [] scope), Option.isSome_some]

/-- The containers that a walk converts are containers of the workflow in their order, and all of them if none is
skipped. -/
theorem covers_of_walk {b c : Bench} {converted : Conversions}
    (hrun : (walk w r flow parent).run b = (.ok converted, c)) : Covers flow.containerPaths converted := by
  have hgoes : GoesLike (assembleWorkflow w r flow parent) flow.containerPaths [] (walk w r flow parent) :=
    .entered (fun noted => (Activity.nodesIn .workflow 0 flow.activities).foldlM (visit w r) noted)
      (walk_skipped flow) (walk_opened flow)
  have hassembly : (assembleWorkflow w r flow parent).run b = (.ok (converted.scopeAt? []).isSome, c) := by
    rw [assembleWorkflow_eq_walk, run_bind, hrun]
    rfl
  obtain ⟨more, hmore, hwalk⟩ := hgoes.done hassembly
  cases hrun.symm.trans hwalk
  exact hmore

end Walk

end Build

end WorkflowForge
