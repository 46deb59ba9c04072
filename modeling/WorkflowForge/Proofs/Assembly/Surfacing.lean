import WorkflowForge.Proofs.Assembly.Collections

/-!
What the activities under a scope bring into its collection. Each activity is converted by snippets that are known
beforehand, and brings in what these come to when its turn comes. A container also opens a collection for its children;
only where that is the collection it stands in itself does what is assembled below it come to the surface.
-/

namespace WorkflowForge

namespace Workshop

/-- The snippets that convert an activity without children: those of its channel, or else the one for its type. -/
def leafSnippets (w : Workshop) (type : String) : List Snippet :=
  let below (kind : String) := w.manager.snippetsBelow (Snippet.familyPrefix (Snippet.key kind none))
  let channel :=
    if type = "Receive" then below "channel.receive" else if type = "Send" then below "channel.send" else []
  if channel.isEmpty then (w.manager.resolve "activity" (some type)).toList else channel

/-- The snippet whose actions a container puts beside itself. A decision branch puts none there. -/
def containerSnippets (w : Workshop) (type : String) : List Snippet :=
  if type = "DecisionBranch" then [] else (w.manager.resolve "activitycontainer" (some type)).toList

/-- The snippets of what comes first in a container. -/
def prebuiltSnippets (w : Workshop) (type : String) : List Snippet :=
  if type = "" then []
  else w.manager.snippetsBelow (Snippet.familyPrefix (Snippet.key "activitycontainer" (some type)))

/-- The snippets of the actions that an activity brings itself. -/
def ownSnippets (w : Workshop) : Activity → List Snippet
  | .leaf e => w.leafSnippets e.type
  | .container e _ _ _ => w.containerSnippets e.type

end Workshop

/-- An activity whose turn has come, and the bench at that time. -/
structure Arrival where
  place : Place
  activity : Activity
  bench : Bench

def Arrival.item (t : Arrival) : Item := .ofActivity t.place t.activity

namespace Build

variable {w : Workshop}

/-- Inserts what comes first in a container. -/
def stock (w : Workshop) (item : Item) (scope : Scope) : Build Unit := do
  let count ← addPrebuilt w item scope
  if count != 0 then
    debug "flowsmith.assembly.assembler" "prebuilt_actions_added"
      [("workflow", .string w.manager.name), ("container", .string item.name), ("count", .int count)]

/-- The payload that a container is converted by, from a bench on. -/
def containerPayload (w : Workshop) (item : Item) (b : Bench) : Option Payload :=
  ((renderContainer w item).run b).1.toOption.join

/-- What comes into a container's collection, where it is known what its children bring. -/
def contents (w : Workshop) (item : Item) (children : Scope → Bench → Fields) (scope : Scope) (b : Bench) : Fields :=
  renderedActions w item (w.prebuiltSnippets item.type) b ++ children scope ((stock w item scope).run b).2

/-- What a container brings into the collection it stands in by opening that for its children. -/
def surfaced (parent : Scope) (contents : Scope → Bench → Fields) : Except Fault Opening × Bench → Fields
  | (.ok ⟨_, some scope⟩, c) => if scope.location = parent.location then contents scope c else []
  | _ => []

mutual

/-- What an activity brings into the collection that it is assembled under. -/
def surface (w : Workshop) (place : Place) (parent : Scope) (b : Bench) : Activity → Fields
  | .leaf e => renderedActions w (.ofActivity place (.leaf e)) (w.leafSnippets e.type) b
  | .container e activities vars messages =>
    let item := Item.ofActivity place (.container e activities vars messages)
    renderedActions w item (w.containerSnippets e.type) b ++
      surfaced parent (contents w item fun scope c => surfaceIn w place scope 0 c activities)
        ((opening w item parent).run b)

/-- The same for the children of the activity at a place, from the one of the given index on. -/
def surfaceIn (w : Workshop) (place : Place) (scope : Scope) (index : Nat) (b : Bench) : List Activity → Fields
  | [] => []
  | a :: rest =>
    surface w (place.child index) scope b a ++
      surfaceIn w place scope (index + 1) ((assembleActivity w .standard (place.child index) scope a).run b).2 rest

end

/-- The children of the activity at a place when their turns come, from the one of the given index on. -/
def arrivals (w : Workshop) (place : Place) (scope : Scope) (index : Nat) (b : Bench) : List Activity → List Arrival
  | [] => []
  | a :: rest =>
    ⟨place.child index, a, b⟩ ::
      arrivals w place scope (index + 1) ((assembleActivity w .standard (place.child index) scope a).run b).2 rest

theorem surfaceIn_eq_flatMap (place : Place) (scope : Scope) (index : Nat) (b : Bench) (activities : List Activity) :
    surfaceIn w place scope index b activities =
      (arrivals w place scope index b activities).flatMap fun t => surface w t.place scope t.bench t.activity := by
  induction activities generalizing index b with
  | nil => rw [surfaceIn, arrivals, List.flatMap_nil]
  | cons a rest ih => rw [surfaceIn, arrivals, List.flatMap_cons, ih]

theorem assembleContainer_stock (item : Item) (parent : Scope) (children : Scope → Build Unit) :
    assembleContainer w .standard item parent children = do
      let o ← opening w item parent
      match o.scope with
      | none =>
        debug "flowsmith.assembly.assembler" "container_skipped"
          [("workflow", .string w.manager.name), ("container", .string item.name)]
        return false
      | some scope =>
        stock w item scope
        children scope
        return true := by
  unfold assembleContainer stock
  rw [convert_container]
  simp only [bind_assoc, pure_bind]
  refine bind_congr fun o => ?_
  cases o.scope with
  | none => rfl
  | some scope =>
      refine bind_congr fun count => ?_
      split <;> simp

/-- A container that was opened is stocked, and its children are assembled. -/
theorem assembleContainer_run {item : Item} {parent scope : Scope} {children : Scope → Build Unit}
    {own : Option Contribution} {b o c : Bench} {r : Bool}
    (hopening : (opening w item parent).run b = (.ok ⟨own, some scope⟩, o))
    (hrun : (assembleContainer w .standard item parent children).run b = (.ok r, c)) :
    r = true ∧ ∃ d, (stock w item scope).run o = (.ok (), d) ∧ (children scope).run d = (.ok (), c) := by
  rw [assembleContainer_stock] at hrun
  obtain ⟨_, d, hopening', hrun⟩ := run_bind_ok hrun
  cases hopening.symm.trans hopening'
  obtain ⟨_, d, hstock, hrun⟩ := run_bind_ok hrun
  obtain ⟨_, e, hchildren, hrun⟩ := run_bind_ok hrun
  cases hrun
  exact ⟨rfl, d, hstock, hchildren⟩

theorem assembleActivities_cons_run {place : Place} {scope : Scope} {index : Nat} {a : Activity}
    {rest : List Activity} {b c : Bench}
    (hrun : (assembleActivities w .standard place scope index (a :: rest)).run b = (.ok (), c)) :
    ∃ r d, (assembleActivity w .standard (place.child index) scope a).run b = (.ok r, d) ∧
      (assembleActivities w .standard place scope (index + 1) rest).run d = (.ok (), c) := by
  rw [assembleActivities] at hrun
  obtain ⟨_, d, hfirst, hrest⟩ := run_bind_ok hrun
  obtain ⟨r, e, hfirst, hdone⟩ := run_bind_ok hfirst
  cases hdone
  exact ⟨r, d, hfirst, hrest⟩

theorem resolve_ok {kind : String} {type : Option String} {found : Option Snippet} {b c : Bench}
    (hrun : (resolve w kind type).run b = (.ok found, c)) : found = w.manager.resolve kind type := by
  unfold resolve at hrun
  split at hrun
  · next snippet hsnippet =>
      cases hrun
      exact hsnippet.symm
  · next hnone =>
      obtain ⟨_, d, _, hrun⟩ := run_bind_ok hrun
      cases hrun
      exact hnone.symm

section Offers

variable {item : Item} {scope parent : Scope} {b c : Bench}

theorem contribute_rendered {source : String} {snippet : Snippet} {own : Option Contribution}
    (hrun : (contribute w item scope source snippet).run b = (.ok own, c)) :
    ∃ payload d, (render w (some item) snippet).run b = (.ok payload, d) ∧ d.RendersLike c ∧
      own.toList.flatMap Contribution.actions = actionsOf payload := by
  obtain ⟨payload, d, hrender, hrun⟩ := run_bind_ok hrun
  obtain ⟨inserted, e, hinsert, hrun⟩ := run_bind_ok hrun
  cases hrun
  refine ⟨payload, d, hrender, (RendersNothing.insertActions _ _ _).like hinsert, ?_⟩
  cases payload with
  | none => rfl
  | some p => exact List.append_nil _

theorem contributeAll_offers {source : Snippet → String} {snippets : List Snippet} {own : List Contribution}
    (hrun : (contributeAll w item scope source snippets).run b = (.ok own, c)) :
    Offers w item snippets (own.flatMap Contribution.actions) b c := by
  induction snippets generalizing b own with
  | nil =>
      cases hrun
      exact .nothing (.refl _)
  | cons snippet rest ih =>
      obtain ⟨first, d, hfirst, hrun⟩ := run_bind_ok hrun
      obtain ⟨others, e, hothers, hrun⟩ := run_bind_ok hrun
      cases hrun
      obtain ⟨payload, f, hrender, hlike, hactions⟩ := contribute_rendered hfirst
      rw [List.flatMap_append, hactions]
      exact .cons hrender ((ih hothers).of_like hlike)

/-- A build is another one after some steps that render nothing. -/
def EndsIn (w : Workshop) {α : Type} (x y : Build α) : Prop :=
  ∃ before : Build Unit, IsComposed w .plain [] before ∧ RendersNothing before ∧ x = before >>= fun _ => y

theorem EndsIn.at_once {α : Type} (x : Build α) : EndsIn w x x :=
  ⟨Pure.pure (), .done, .done _, by rw [pure_bind]⟩

theorem EndsIn.debug {α : Type} {x y : Build α} (h : EndsIn w x y) (logger name : String) (fields : Fields)
    (hname : name ∉ Event.tellingOfFiles) : EndsIn w (Build.debug logger name fields >>= fun _ => x) y := by
  obtain ⟨before, hcomposed, hnothing, rfl⟩ := h
  refine ⟨Build.debug logger name fields >>= fun _ => before, .andThen (.debug _ _ _ hname) fun _ => hcomposed,
    .bind (.debug _ _ _) fun _ => hnothing, ?_⟩
  rw [bind_assoc]

theorem EndsIn.bind {α β : Type} {x : Build α} {a : α} {f : α → Build β} {y : Build β}
    (hx : EndsIn w x (Pure.pure a)) (hf : EndsIn w (f a) y) : EndsIn w (x >>= f) y := by
  obtain ⟨before, hcomposed, hnothing, rfl⟩ := hx
  obtain ⟨after, hcomposed', hnothing', heq⟩ := hf
  refine ⟨before >>= fun _ => after, .andThen hcomposed fun _ => hcomposed', .bind hnothing fun _ => hnothing', ?_⟩
  simp only [bind_assoc, pure_bind, heq]

theorem resolve_endsIn (kind : String) (type : Option String) :
    EndsIn w (resolve w kind type) (Pure.pure (w.manager.resolve kind type)) := by
  unfold resolve
  split
  · next hfound =>
      rw [hfound]
      exact .at_once _
  · next hnone =>
      rw [hnone]
      exact ⟨_, .record _ _ _, .record _ _ _, rfl⟩

theorem activityContributions_endsIn (item : Item) (parent : Scope) :
    EndsIn w (activityContributions w item parent)
      (contributeAll w item parent (fun _ => item.name) (w.manager.resolve "activity" (some item.type)).toList) := by
  refine .debug (.bind (resolve_endsIn _ _) ?_) _ _ _ (by decide)
  cases w.manager.resolve "activity" (some item.type) with
  | none => exact .at_once _
  | some snippet =>
      have hsame : (do return (← contribute w item parent item.name snippet).toList : Build (List Contribution)) =
          contributeAll w item parent (fun _ => item.name) [snippet] := by simp [contributeAll]
      rw [Option.toList_some, ← hsame]
      exact .at_once _

theorem channelContributions_endsIn (kind : String) (item : Item) (parent : Scope) :
    let channel := w.manager.snippetsBelow (Snippet.familyPrefix (Snippet.key kind none))
    EndsIn w (channelContributions kind w item parent)
      (contributeAll w item parent (fun _ => item.name)
        (if channel.isEmpty then (w.manager.resolve "activity" (some item.type)).toList else channel)) := by
  intro channel
  unfold channelContributions
  dsimp only
  split
  · next hnone =>
      have hempty : channel.isEmpty = true := by rw [List.isEmpty_iff]; exact hnone
      rw [if_pos hempty]
      exact (activityContributions_endsIn item parent).debug _ _ _ (by decide)
  · next hsome =>
      have hempty : ¬ channel.isEmpty = true := by rw [List.isEmpty_iff]; exact hsome
      rw [if_neg hempty]
      exact .at_once _

/-- Whichever handler an activity without children has, its snippets contribute one after the other. -/
theorem leafContributions_endsIn (item : Item) (parent : Scope) :
    EndsIn w (leafContributions w item parent)
      (contributeAll w item parent (fun _ => item.name) (w.leafSnippets item.type)) := by
  unfold leafContributions Workshop.leafSnippets
  dsimp only
  split
  · exact channelContributions_endsIn _ item parent
  · split
    · exact channelContributions_endsIn _ item parent
    · exact activityContributions_endsIn item parent

theorem leafContributions_offers {own : List Contribution}
    (hrun : (leafContributions w item parent).run b = (.ok own, c)) :
    Offers w item (w.leafSnippets item.type) (own.flatMap Contribution.actions) b c := by
  obtain ⟨before, _, hnothing, heq⟩ := leafContributions_endsIn (w := w) item parent
  rw [heq] at hrun
  obtain ⟨_, d, hbefore, hrun⟩ := run_bind_ok hrun
  exact (contributeAll_offers hrun).of_like (hnothing.like hbefore)

theorem prebuiltContributions_offers {own : List Contribution}
    (hrun : (prebuiltContributions w item scope).run b = (.ok own, c)) :
    Offers w item (w.prebuiltSnippets item.type) (own.flatMap Contribution.actions) b c := by
  unfold prebuiltContributions at hrun
  unfold Workshop.prebuiltSnippets
  split at hrun
  · next hempty =>
      rw [if_pos (by simpa using hempty)]
      cases hrun
      exact .nothing (.refl _)
  · next hempty =>
      rw [if_neg (by simpa using hempty)]
      exact contributeAll_offers hrun

theorem renderContainer_offers {payload : Option Payload}
    (hrun : (renderContainer w item).run b = (.ok payload, c)) :
    Offers w item (w.manager.resolve "activitycontainer" (some item.type)).toList (actionsOf payload) b c := by
  obtain ⟨found, d, hresolve, hrun⟩ := run_bind_ok hrun
  have hlike := (RendersNothing.resolve _ _).like hresolve
  rw [← resolve_ok hresolve]
  cases found with
  | none =>
      cases hrun
      exact .nothing hlike
  | some snippet =>
      obtain ⟨rendered, e, hrender, hrun⟩ := run_bind_ok hrun
      refine Offers.of_like ?_ hlike
      split at hrun
      · next hempty =>
          obtain ⟨_, f, hdebug, hrun⟩ := run_bind_ok hrun
          cases hrun
          have hnothing : actionsOf none = actionsOf rendered := (List.isEmpty_iff.mp hempty).symm
          rw [hnothing]
          exact .single hrender ((RendersNothing.debug _ _ _).like hdebug)
      · cases hrun
        exact .single hrender (.refl _)

/-- The payload does not depend on what was logged before it is rendered. -/
theorem containerPayload_eq {payload : Option Payload} {d : Bench} (hstart : b.RendersLike d)
    (hrun : (renderContainer w item).run d = (.ok payload, c)) : containerPayload w item b = payload := by
  obtain ⟨e, hrun', _⟩ := (Uniform.renderContainer item).run_eq hstart.symm hrun
  rw [containerPayload, hrun']
  rfl

end Offers

section Opening

variable {item : Item} {parent scope : Scope} {o : Opening} {b c : Bench}

theorem openContainer_offers (hrun : (openContainer w item parent).run b = (.ok o, c)) :
    Offers w item (w.manager.resolve "activitycontainer" (some item.type)).toList
      (o.own.toList.flatMap Contribution.actions) b c := by
  obtain ⟨_, d, hdebug, hrun⟩ := run_bind_ok hrun
  obtain ⟨rendered, e, hrender, hrun⟩ := run_bind_ok hrun
  have hoffers := (renderContainer_offers hrender).of_like ((RendersNothing.debug _ _ _).like hdebug)
  split at hrun
  · cases hrun
    exact hoffers
  · next payload =>
      split at hrun
      · next hfirst =>
          cases hrun
          -- A payload without a first action has no actions.
          have hempty : actionsOf (some payload) = [] := by
            unfold Payload.firstAction? at hfirst
            unfold actionsOf
            cases hactions : payload.actions with
            | none => simp [hactions]
            | some actions => simpa [hactions] using hfirst
          rw [hempty] at hoffers
          exact hoffers
      · obtain ⟨inserted, f, hinsert, hrun⟩ := run_bind_ok hrun
        obtain ⟨found, g, hlocate, hrun⟩ := run_bind_ok hrun
        cases hrun
        have hafter := ((RendersNothing.insertActions _ _ _).like hinsert).trans
          ((RendersNothing.locateChildren _ _ _).like hlocate)
        obtain ⟨h, hrendered, hlike⟩ := hoffers
        refine ⟨h, ?_, hlike.trans hafter⟩
        rw [hrendered]
        exact congrArg (fun actions => (Except.ok actions, h)) (List.append_nil _).symm

/-- The collection that a container opens is where its payload says. -/
theorem openContainer_location (hrun : (openContainer w item parent).run b = (.ok o, c))
    (hscope : o.scope = some scope) :
    ∃ payload first, containerPayload w item b = some payload ∧
      scope.location = parent.location ++ childSegments payload first := by
  obtain ⟨_, d, hdebug, hrun⟩ := run_bind_ok hrun
  obtain ⟨rendered, e, hrender, hrun⟩ := run_bind_ok hrun
  have hpayload := containerPayload_eq ((RendersNothing.debug _ _ _).like hdebug) hrender
  split at hrun
  · cases hrun
    cases hscope
  · next payload =>
      split at hrun
      · cases hrun
        cases hscope
      · next name body _ =>
          obtain ⟨inserted, f, _, hrun⟩ := run_bind_ok hrun
          obtain ⟨found, g, hlocate, hrun⟩ := run_bind_ok hrun
          cases hrun
          have hpaired : Paired w w Terms.plain.diagonal [] (locateChildren w payload name parent) _ _ :=
            locateChildren_paired payload name parent
          exact ⟨payload, name, hpayload, hpaired.post hlocate scope hscope⟩

/-- A branch opens nothing and leaves the document, or it goes on to the default or to a case of a switch. -/
theorem openBranch_cases (hrun : (openBranch w item parent).run b = (.ok o, c)) :
    o.scope = none ∧ c.document = b.document ∨
      ∃ name e, e.document = b.document ∧
        ((locateElse w ⟨parent.base, parent.location ++ [name]⟩ name).run e = (.ok o.scope, c) ∨
          ∃ payload first,
            (openCase w item payload ⟨parent.base, parent.location ++ [name]⟩ name first).run e = (.ok o, c)) := by
  obtain ⟨_, d, hdebug, hrun⟩ := run_bind_ok hrun
  obtain ⟨rendered, e, hrender, hrun⟩ := run_bind_ok hrun
  have hsame : e.document = b.document := (renderContainer_document_eq hrender).trans (debug_document_eq hdebug)
  split at hrun
  · cases hrun
    exact .inl ⟨rfl, hsame⟩
  · next payload =>
      split at hrun
      · cases hrun
        exact .inl ⟨rfl, hsame⟩
      · next first _ =>
          rw [run_get_bind] at hrun
          split at hrun
          · next name body _ =>
              dsimp only at hrun
              split at hrun
              · obtain ⟨found, g, hlocate, hrun⟩ := run_bind_ok hrun
                cases hrun
                exact .inr ⟨name, e, hsame, .inl hlocate⟩
              · exact .inr ⟨name, e, hsame, .inr ⟨payload, first, hrun⟩⟩
          · obtain ⟨_, g, hrecord, hrun⟩ := run_bind_ok hrun
            cases hrun
            exact .inl ⟨rfl, (Does.document_eq (w := w) (fun _ => record_acts _ _ _) hrecord).trans hsame⟩

/-- A branch puts nothing beside itself, and opens a collection in the switch. -/
theorem openBranch_receivesAt (hrun : (openBranch w item parent).run b = (.ok o, c)) :
    Json.ReceivesAt parent.location [] b.document c.document ∧
      ∀ scope, o.scope = some scope → ∃ name, parent.location ++ [name] <+: scope.location := by
  rcases openBranch_cases hrun with ⟨hnone, hsame⟩ | ⟨name, e, hsame, helse | ⟨payload, first, hcase⟩⟩
  · rw [hsame, hnone]
    exact ⟨.refl _ _, fun _ h => by cases h⟩
  · have hcomposed : Composed w .plain (parent.location ++ [name]) _ _ :=
      (locateElse_paired ⟨parent.base, parent.location ++ [name]⟩ _ name (List.prefix_refl _)).alone
    rw [← hsame]
    exact ⟨(hcomposed.does.moves helse).receivesAt (not_append_prefix_self (by simp)),
      fun scope hscope => ⟨name, hcomposed.post helse scope hscope⟩⟩
  · have hitem : Terms.plain.diagonal.on item item := ⟨rfl, trivial⟩
    have hcomposed : Composed w .plain (parent.location ++ [name]) _ _ :=
      (openCase_paired hitem payload ⟨parent.base, parent.location ++ [name]⟩ _ name first (List.prefix_refl _)
        (List.prefix_refl _)).alone
    rw [← hsame]
    exact ⟨(hcomposed.does.moves hcase).receivesAt (not_append_prefix_self (by simp)),
      fun scope hscope => ⟨name, hcomposed.post hcase scope hscope⟩⟩

/-- The conversion of a container brings into the collection what the container renders itself. -/
theorem opening_receivesAt (hrun : (opening w item parent).run b = (.ok o, c))
    (hobject : (b.document.objectAt? parent.location).isSome) :
    Json.ReceivesAt parent.location (renderedActions w item (w.containerSnippets item.type) b) b.document
      c.document := by
  unfold opening at hrun
  unfold Workshop.containerSnippets
  split at hrun
  · next hbranch =>
      rw [if_pos hbranch]
      exact (openBranch_receivesAt hrun).1
  · next hbranch =>
      rw [if_neg hbranch, (openContainer_offers hrun).renderedActions_eq]
      exact (openContainer_recorded hrun hobject).own.receivesAt

theorem opening_composed (item : Item) (parent : Scope) :
    Composed w .plain parent.location (opening w item parent) (Opening.Below parent) := by
  have hitem : Terms.plain.diagonal.on item item := ⟨rfl, trivial⟩
  unfold opening
  split
  · exact (openBranch_paired rfl hitem parent (List.prefix_refl _)).alone
  · exact (openContainer_paired rfl hitem parent (List.prefix_refl _)).alone

theorem stock_composed (item : Item) (scope : Scope) : IsComposed w .plain scope.location (stock w item scope) := by
  have hitem : Terms.plain.diagonal.on item item := ⟨rfl, trivial⟩
  have hprebuilt : IsComposed w .plain scope.location (prebuiltContributions w item scope) :=
    (prebuiltContributions_paired rfl hitem scope (List.prefix_refl _)).alone
  refine .andThen (.andThen hprebuilt fun _ => .done) fun count => ?_
  split
  · exact .debug _ _ _ (by decide)
  · exact .done

theorem stock_receivesAt (hrun : (stock w item scope).run b = (.ok (), c))
    (hobject : (b.document.objectAt? scope.location).isSome) :
    Json.ReceivesAt scope.location (renderedActions w item (w.prebuiltSnippets item.type) b) b.document
      c.document := by
  obtain ⟨count, d, hcount, hrun⟩ := run_bind_ok hrun
  obtain ⟨own, e, hown, hcount⟩ := run_bind_ok hcount
  cases hcount
  have hsame : c.document = d.document := by
    split at hrun
    · exact debug_document_eq hrun
    · cases hrun
      rfl
  rw [hsame, (prebuiltContributions_offers hown).renderedActions_eq]
  exact (prebuiltContributions_contributed hown hobject).receivesAt

/-- What comes first in a container comes into its collection, and then what its children bring. -/
theorem contents_receivesAt {children : Scope → Bench → Fields} {d : Bench}
    (hstock : (stock w item scope).run b = (.ok (), d))
    (hchildren : (d.document.objectAt? scope.location).isSome →
      Json.ReceivesAt scope.location (children scope d) d.document c.document)
    (hobject : (b.document.objectAt? scope.location).isSome) :
    Json.ReceivesAt scope.location (contents w item children scope b) b.document c.document := by
  have hstocked := stock_receivesAt hstock hobject
  rw [contents, hstock]
  exact hstocked.append (hchildren (hstocked.isSome hobject))

end Opening

section Assembly

variable {item : Item} {parent : Scope} {b c : Bench}

/-- What is filled into a container's collection comes to it alone: any other that is not below it receives nothing. -/
theorem assembleContainer_receivesAt {children : Scope → Build Unit} {offers : Scope → Bench → Fields} {r : Bool}
    (hacts : ∀ scope, Acts w scope.location (children scope))
    (hchildren : ∀ scope d e, (children scope).run d = (.ok (), e) → (d.document.objectAt? scope.location).isSome →
      Json.ReceivesAt scope.location (offers scope d) d.document e.document)
    (hrun : (assembleContainer w .standard item parent children).run b = (.ok r, c))
    (hobject : (b.document.objectAt? parent.location).isSome) :
    Json.ReceivesAt parent.location
      (renderedActions w item (w.containerSnippets item.type) b ++
        surfaced parent (contents w item offers) ((opening w item parent).run b)) b.document c.document := by
  have hassembled := hrun
  rw [assembleContainer_stock] at hrun
  obtain ⟨⟨own, found⟩, d, hopening, hrun⟩ := run_bind_ok hrun
  have hopened := opening_receivesAt hopening hobject
  refine hopened.append ?_
  rw [hopening]
  cases found with
  | none =>
      obtain ⟨_, e, hdebug, hrun⟩ := run_bind_ok hrun
      cases hrun
      rw [debug_document_eq hdebug]
      exact .refl _ _
  | some scope =>
      obtain ⟨_, e, hstock, hfilled⟩ := assembleContainer_run hopening hassembled
      rw [surfaced]
      split
      · next hlocation =>
          have hthere : (d.document.objectAt? scope.location).isSome := by
            rw [hlocation]
            exact hopened.isSome hobject
          rw [← hlocation]
          exact contents_receivesAt hstock (hchildren scope e c hfilled) hthere
      · next hlocation =>
          have hnot : ¬ scope.location <+: parent.location := fun h =>
            hlocation (h.eq_of_length_le ((opening_composed item parent).post hopening scope rfl).length_le)
          have hmoves : Moves w scope.location d c :=
            ((stock_composed item scope).does.moves hstock).trans ((hacts scope).moves hfilled)
          exact hmoves.receivesAt hnot

theorem assembleActivities_composed (place : Place) (scope : Scope) (index : Nat) (activities : List Activity) :
    IsComposed w .plain scope.location (assembleActivities w .standard place scope index activities) := by
  have hself : Activity.CorrespondIn Terms.plain.diagonal.on place index activities activities :=
    Activity.correspondIn_self place index activities fun _ _ _ _ _ _ => ⟨rfl, trivial⟩
  exact (assembleActivities_paired Registry.standard_builtIn rfl place scope (List.prefix_refl _) index activities
    activities hself).alone

mutual

/-- What an activity brings into the collection that it is assembled under. -/
theorem assembleActivity_receivesAt {place : Place} {parent : Scope} {b c : Bench} {r : Bool} :
    (a : Activity) → (assembleActivity w .standard place parent a).run b = (.ok r, c) →
      (b.document.objectAt? parent.location).isSome →
        Json.ReceivesAt parent.location (surface w place parent b a) b.document c.document
  | .leaf e, hrun, hobject => by
      rw [assembleActivity] at hrun
      rw [surface]
      have hconvert := convert_leaf w (.ofActivity place (.leaf e)) parent
      obtain ⟨own, d, hown, hrun⟩ := run_bind_ok ((congrArg (·.run b) hconvert).symm.trans hrun)
      cases hrun
      have hoffers : Offers w _ (w.leafSnippets e.type) _ b c := leafContributions_offers hown
      rw [hoffers.renderedActions_eq]
      exact (leafContributions_contributed hown hobject).receivesAt
  | .container e activities vars messages, hrun, hobject => by
      rw [assembleActivity] at hrun
      rw [surface]
      refine assembleContainer_receivesAt (fun scope => (assembleActivities_composed place scope 0 activities).does)
        (fun scope d f hfilled hthere => ?_) hrun hobject
      exact assembleActivities_receivesAt activities hfilled hthere

theorem assembleActivities_receivesAt {place : Place} {scope : Scope} {index : Nat} {b c : Bench} :
    (activities : List Activity) → (assembleActivities w .standard place scope index activities).run b = (.ok (), c) →
      (b.document.objectAt? scope.location).isSome →
        Json.ReceivesAt scope.location (surfaceIn w place scope index b activities) b.document c.document
  | [], hrun, _ => by
      rw [assembleActivities] at hrun
      rw [surfaceIn]
      cases hrun
      exact .refl _ _
  | a :: rest, hrun, hobject => by
      obtain ⟨r, d, hfirst, hrun⟩ := assembleActivities_cons_run hrun
      have hreceives := assembleActivity_receivesAt a hfirst hobject
      rw [surfaceIn, hfirst]
      exact hreceives.append (assembleActivities_receivesAt rest hrun (hreceives.isSome hobject))

end

end Assembly

end Build

end WorkflowForge
