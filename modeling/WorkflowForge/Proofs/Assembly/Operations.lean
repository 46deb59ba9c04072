import Mathlib.Data.List.Forall2
import WorkflowForge.Assembly.Assembler
import WorkflowForge.Assembly.Declaration
import WorkflowForge.Proofs.Assembly.Elements
import WorkflowForge.Proofs.Assembly.Pairing

/-!
The operations on a document are put together from the steps of a build: handlers, the assembly of a tree of activities,
and declarations. A handler works within the scope that it is given, and the scope that it gives for the children of a
container is at or below that one; so the assembly of a whole tree works within the scope that it starts from. What is
rendered are snippets of the process manager, for elements of its workflow. For two process managers with the same
snippets, whose workflows have one shape and elements that correspond, the operations go side by side.
-/

namespace WorkflowForge

/-- The collection for a container's children is at or below the one that the container stands in. -/
def Opening.Below (parent : Scope) (o : Opening) : Prop :=
  ∀ scope, o.scope = some scope → parent.location <+: scope.location

namespace Activity

mutual

/-- Two trees of one shape whose activities correspond place by place. -/
def Corresponds (R : Item → Item → Prop) (place : Place) : Activity → Activity → Prop
  | .leaf e, .leaf e' => R (.ofActivity place (.leaf e)) (.ofActivity place (.leaf e'))
  | .container e activities vars messages, .container e' activities' vars' messages' =>
    R (.ofActivity place (.container e activities vars messages))
        (.ofActivity place (.container e' activities' vars' messages')) ∧
      CorrespondIn R place 0 activities activities'
  | _, _ => False

/-- The same for the children of the activity at a place, from the one of the given index on. -/
def CorrespondIn (R : Item → Item → Prop) (place : Place) (index : Nat) : List Activity → List Activity → Prop
  | [], [] => True
  | a :: rest, a' :: rest' => Corresponds R (place.child index) a a' ∧ CorrespondIn R place (index + 1) rest rest'
  | _, _ => False

end

mutual

/-- A tree corresponds to itself if all that is reached in it does. -/
theorem corresponds_self {R : Item → Item → Prop} (place : Place) : (a : Activity) →
    (∀ path c, a.at? path = some c → R (.ofActivity (place.below path) c) (.ofActivity (place.below path) c)) →
      Corresponds R place a a
  | .leaf e, h => by
      have hhere := h [] (.leaf e) rfl
      rwa [Place.below_nil] at hhere
  | .container e activities vars messages, h => by
      have hhere := h [] (.container e activities vars messages) rfl
      rw [Place.below_nil] at hhere
      refine ⟨hhere, correspondIn_self place 0 activities fun index child hchild path c hc => ?_⟩
      have hreached := h (index :: path) c (by rwa [at?_cons hchild])
      rwa [Nat.zero_add, Place.child_below]

theorem correspondIn_self {R : Item → Item → Prop} (place : Place) (start : Nat) : (activities : List Activity) →
    (∀ (index : Nat) child, activities[index]? = some child → ∀ path c, child.at? path = some c →
      R (.ofActivity ((place.child (start + index)).below path) c)
        (.ofActivity ((place.child (start + index)).below path) c)) →
      CorrespondIn R place start activities activities
  | [], _ => trivial
  | a :: rest, h => by
      refine ⟨corresponds_self (place.child start) a (h 0 a rfl), ?_⟩
      refine correspondIn_self place (start + 1) rest fun index child hchild => ?_
      have hrest := h (index + 1) child hchild
      rwa [Nat.add_comm index, ← Nat.add_assoc] at hrest

end

end Activity

/-- Two workflows of one shape whose elements correspond. -/
structure Workflow.Corresponds (R : Item → Item → Prop) (flow flow' : Workflow) : Prop where
  itself : R (.ofWorkflow flow) (.ofWorkflow flow')
  activities : Activity.CorrespondIn R .workflow 0 flow.activities flow'.activities
  vars : List.Forall₂ R flow.variableItems flow'.variableItems
  messages : List.Forall₂ R flow.messageItems flow'.messageItems
  activators : flow'.activators.length = flow.activators.length

theorem Workflow.corresponds_self {R : Item → Item → Prop} {flow : Workflow} (h : ∀ item, flow.Has item → R item item) :
    flow.Corresponds R flow where
  itself := h _ flow.has_itself
  activities := by
    refine Activity.correspondIn_self .workflow 0 flow.activities fun index child hchild path c hc => h _ ?_
    rw [Nat.zero_add, Place.child_below]
    exact Workflow.has_activity (by rwa [Activity.at?_cons hchild])
  vars := List.forall₂_same.mpr fun item hitem => h item (Workflow.has_of_mem_variableItems hitem)
  messages := List.forall₂_same.mpr fun item hitem => h item (Workflow.has_of_mem_messageItems hitem)
  activators := rfl

namespace ProcessManager

theorem mem_of_findSnippet {p : ProcessManager} {key : String} {s : Snippet} (h : p.findSnippet key = some s) :
    s ∈ p.snippets :=
  List.mem_of_find?_eq_some h

theorem mem_of_mem_snippetsUnder {p : ProcessManager} {key : String} {s : Snippet} (h : s ∈ p.snippetsUnder key) :
    s ∈ p.snippets :=
  (List.mem_filter.mp h).1

theorem mem_of_mem_snippetsBelow {p : ProcessManager} {beginning : String} {s : Snippet}
    (h : s ∈ p.snippetsBelow beginning) : s ∈ p.snippets :=
  (List.mem_filter.mp h).1

theorem mem_of_resolve {p : ProcessManager} {kind : String} {type : Option String} {s : Snippet}
    (h : p.resolve kind type = some s) : s ∈ p.snippets := by
  unfold resolve at h
  rcases Option.or_eq_some_iff.mp h with htyped | ⟨_, hplaceholder⟩
  · split at htyped
    · split at htyped
      · cases htyped
      · exact mem_of_findSnippet htyped
    · cases htyped
  · exact mem_of_findSnippet hplaceholder

section

variable {p q : ProcessManager} (h : q.snippets = p.snippets)

include h

theorem findSnippet_congr (key : String) : q.findSnippet key = p.findSnippet key := by
  rw [findSnippet, findSnippet, h]

theorem snippetsUnder_congr (key : String) : q.snippetsUnder key = p.snippetsUnder key := by
  rw [snippetsUnder, snippetsUnder, h]

theorem snippetsBelow_congr (beginning : String) : q.snippetsBelow beginning = p.snippetsBelow beginning := by
  rw [snippetsBelow, snippetsBelow, h]

theorem resolve_congr (kind : String) (type : Option String) : q.resolve kind type = p.resolve kind type := by
  simp only [resolve, findSnippet_congr h]

end

end ProcessManager

/-- Elements correspond if snippets may be rendered for the one on the one side and for the other on the other. -/
abbrev Pairing.on (p : Pairing) (i j : Item) : Prop := p.renders (some i) (some j)

/-- Two workshops with the same snippets and with workflows that correspond, or with none. -/
structure Workshop.Counterparts (p : Pairing) (w w' : Workshop) : Prop where
  snippets : w'.manager.snippets = w.manager.snippets
  workflow : Option.Rel (Workflow.Corresponds p.on) w.manager.workflow w'.manager.workflow
  nothing : w.manager.workflow = none → p.renders none none

theorem Workshop.Counterparts.model {p : Pairing} {w w' : Workshop} (h : w.Counterparts p w') :
    p.renders (Build.modelItem w) (Build.modelItem w') := by
  have hnothing := h.nothing
  have hworkflow := h.workflow
  rw [Build.modelItem, Build.modelItem]
  generalize w.manager.workflow = flow at hnothing hworkflow
  generalize w'.manager.workflow = flow' at hworkflow
  cases hworkflow with
  | none => exact hnothing rfl
  | some hflow => exact hflow.itself

/-- A workshop beside itself, where snippets may be rendered for all elements of its workflow, or for nothing where there
is none. -/
theorem Workshop.counterparts_self {t : Terms} {w : Workshop} (hnothing : w.manager.workflow = none → t.renders none)
    (helements : ∀ flow, w.manager.workflow = some flow → ∀ item, flow.Has item → t.renders (some item)) :
    w.Counterparts t.diagonal w where
  snippets := rfl
  workflow := by
    cases hflow : w.manager.workflow with
    | none => exact .none
    | some flow => exact .some (Workflow.corresponds_self fun item hitem => ⟨rfl, helements flow hflow item hitem⟩)
  nothing h := ⟨rfl, hnothing h⟩

namespace Build

variable {w w' : Workshop} {p : Pairing} {within : List String}

theorem resolve_paired (hsnippets : w'.manager.snippets = w.manager.snippets) (kind : String) (type : Option String) :
    Paired w w' p within (resolve w kind type) (resolve w' kind type) fun found =>
      ∀ s, found = some s → s ∈ w.manager.snippets := by
  unfold resolve
  rw [ProcessManager.resolve_congr hsnippets]
  cases hsnippet : w.manager.resolve kind type with
  | some snippet =>
      refine .pure ?_
      intro s hs
      cases hs
      exact ProcessManager.mem_of_resolve hsnippet
  | none => exact .andThen (.record _ _ _ (by decide)) fun _ => .pure fun _ h => by cases h

theorem insertActions_paired (scope : Scope) (hwithin : within <+: scope.location) (source source' : String)
    (actions : Fields) :
    ArePaired w w' p within (insertActions w scope source actions) (insertActions w' scope source' actions) := by
  induction actions with
  | nil => exact .done
  | cons action rest ih =>
      obtain ⟨name, body⟩ := action
      refine .andThen (.add scope hwithin name body) fun added => ?_
      cases added with
      | true => exact .andThen (.debug _ _ _ _ (by decide)) fun _ => .andThen ih fun _ => .done
      | false => exact .andThen (.warning _ _ _ _ (by decide)) fun _ => .andThen ih fun _ => .done

theorem resolve_location {s t : Scope} {document : Json} {segments : List String}
    (h : s.resolve document segments = some t) : t.location = s.location ++ segments := by
  unfold Scope.resolve at h
  dsimp only at h
  split at h
  · cases h
    rfl
  · cases h

theorem locateChildren_paired (payload : Payload) (action : String) (parent : Scope) :
    Paired w w' p within (locateChildren w payload action parent) (locateChildren w' payload action parent) fun found =>
      ∀ scope, found = some scope → scope.location = parent.location ++ childSegments payload action := by
  refine .read (fun _ _ h => by simp only [h]) (fun _ _ h => by simp only [h]) fun b => ?_
  cases hscope : parent.resolve b.document (childSegments payload action) with
  | some scope =>
      refine .pure fun t ht => ?_
      cases ht
      exact resolve_location hscope
  | none => exact .andThen (.record _ _ _ (by decide)) fun _ => .pure fun _ h => by cases h

theorem renderContainer_paired (hsnippets : w'.manager.snippets = w.manager.snippets) {item item' : Item}
    (hitem : p.on item item') : ArePaired w w' p within (renderContainer w item) (renderContainer w' item') := by
  unfold renderContainer
  rw [p.type_eq hitem]
  refine .bind (resolve_paired hsnippets _ _) fun found hfound => ?_
  cases found with
  | none => exact .done
  | some snippet =>
      refine .andThen (.render _ _ _ (hfound snippet rfl) hitem) fun payload => ?_
      split
      · exact .andThen (.debug _ _ _ _ (by decide)) fun _ => .done
      · exact .done

/-- To render what a container brings leaves the document. -/
theorem renderContainer_document_eq {item : Item} {b c : Bench} {r : Except Fault (Option Payload)}
    (hrun : (renderContainer w item).run b = (r, c)) : c.document = b.document := by
  have hitem : Terms.plain.diagonal.on item item := ⟨rfl, trivial⟩
  exact Does.document_eq (fun _ => (renderContainer_paired rfl hitem).alone.does) hrun

theorem not_opened_below (parent : Scope) (own : Option Contribution) : Opening.Below parent ⟨own, none⟩ :=
  fun _ h => by cases h

theorem openContainer_paired (hsnippets : w'.manager.snippets = w.manager.snippets) {item item' : Item}
    (hitem : p.on item item') (parent : Scope) (hwithin : within <+: parent.location) :
    Paired w w' p within (openContainer w item parent) (openContainer w' item' parent) (Opening.Below parent) := by
  refine .andThen (.debug _ _ _ _ (by decide)) fun _ =>
    .andThen (renderContainer_paired hsnippets hitem) fun rendered => ?_
  cases rendered with
  | none => exact .pure (not_opened_below parent none)
  | some payload =>
      dsimp only
      cases payload.firstAction? with
      | none => exact .pure (not_opened_below parent none)
      | some first =>
          refine .andThen (insertActions_paired parent hwithin _ _ _) fun inserted => ?_
          refine .bind (locateChildren_paired payload first.1 parent) fun found hfound => .pure fun scope hscope => ?_
          exact ⟨_, (hfound scope hscope).symm⟩

theorem openCase_paired {item item' : Item} (hitem : p.on item item') (payload : Payload) (parent switch : Scope)
    (name : String) (first : String × Json) (hwithin : within <+: parent.location)
    (hswitch : parent.location <+: switch.location) :
    Paired w w' p within (openCase w item payload switch name first) (openCase w' item' payload switch name first)
      (Opening.Below parent) := by
  unfold openCase
  rw [p.name_eq hitem]
  refine .read (fun _ _ h => by simp only [h]) (fun _ _ h => by simp only [h]) fun b => ?_
  cases hcases : switch.resolve b.document ["cases"] with
  | none => exact .andThen (.record _ _ _ (by decide)) fun _ => .pure (not_opened_below parent none)
  | some cases_ =>
      have hbelow : parent.location <+: cases_.location := by
        rw [resolve_location hcases]
        exact hswitch.trans (List.prefix_append _ _)
      refine .andThen (.add cases_ (hwithin.trans hbelow) first.1 first.2) fun added => ?_
      have hlast (own : Option Contribution) : Paired w w' p within (do
          let found ← locateChildren w payload first.1 cases_
          Pure.pure (⟨own, found⟩ : Opening)) (do
          let found ← locateChildren w' payload first.1 cases_
          Pure.pure (⟨own, found⟩ : Opening)) (Opening.Below parent) := by
        refine .bind (locateChildren_paired payload first.1 cases_) fun found hfound =>
          .pure fun scope hscope => ?_
        rw [hfound scope hscope]
        exact hbelow.trans (List.prefix_append _ _)
      cases added with
      | true => exact .andThen (.debug _ _ _ _ (by decide)) fun _ => hlast _
      | false => exact .andThen (.warning _ _ _ _ (by decide)) fun _ => hlast _

theorem locateElse_paired (parent switch : Scope) (name : String) (hswitch : parent.location <+: switch.location) :
    Paired w w' p within (locateElse w switch name) (locateElse w' switch name) fun found =>
      ∀ scope, found = some scope → parent.location <+: scope.location := by
  refine .read (fun _ _ h => by simp only [h]) (fun _ _ h => by simp only [h]) fun b => ?_
  cases hscope : switch.resolve b.document ["default", "actions"] with
  | some scope =>
      refine .pure fun t ht => ?_
      cases ht
      rw [resolve_location hscope]
      exact hswitch.trans (List.prefix_append _ _)
  | none => exact .andThen (.record _ _ _ (by decide)) fun _ => .pure fun _ h => by cases h

theorem openBranch_paired (hsnippets : w'.manager.snippets = w.manager.snippets) {item item' : Item}
    (hitem : p.on item item') (parent : Scope) (hwithin : within <+: parent.location) :
    Paired w w' p within (openBranch w item parent) (openBranch w' item' parent) (Opening.Below parent) := by
  refine .andThen (.debug _ _ _ _ (by decide)) fun _ =>
    .andThen (renderContainer_paired hsnippets hitem) fun rendered => ?_
  cases rendered with
  | none => exact .pure (not_opened_below parent none)
  | some payload =>
      dsimp only
      cases payload.firstAction? with
      | none => exact .pure (not_opened_below parent none)
      | some first =>
          dsimp only
          rw [p.name_eq hitem]
          refine .read (fun _ _ h => by simp only [h]) (fun _ _ h => by simp only [h]) fun b => ?_
          -- Any number of switches other than one is an issue.
          rcases parent.ofType b.document "Switch" with _ | ⟨⟨name, body⟩, _ | ⟨second, more⟩⟩
          · exact .andThen (.record _ _ _ (by decide)) fun _ => .pure (not_opened_below parent none)
          · have hswitch : parent.location <+: parent.location ++ [name] := List.prefix_append _ _
            dsimp only
            split
            · exact .bind (locateElse_paired parent _ name hswitch) fun found hfound => .pure hfound
            · exact openCase_paired hitem payload parent _ name first hwithin hswitch
          · exact .andThen (.record _ _ _ (by decide)) fun _ => .pure (not_opened_below parent none)

theorem contribute_paired {item item' : Item} (hitem : p.on item item') (scope : Scope)
    (hwithin : within <+: scope.location) (source source' : String) (snippet : Snippet)
    (hsnippet : snippet ∈ w.manager.snippets) :
    ArePaired w w' p within (contribute w item scope source snippet) (contribute w' item' scope source' snippet) :=
  .andThen (.render _ _ _ hsnippet hitem) fun _ =>
    .andThen (insertActions_paired scope hwithin _ _ _) fun _ => .done

theorem contributeAll_paired {item item' : Item} (hitem : p.on item item') (scope : Scope)
    (hwithin : within <+: scope.location) (source source' : Snippet → String) (snippets : List Snippet)
    (hsnippets : ∀ s ∈ snippets, s ∈ w.manager.snippets) :
    ArePaired w w' p within (contributeAll w item scope source snippets)
      (contributeAll w' item' scope source' snippets) := by
  induction snippets with
  | nil => exact .done
  | cons snippet rest ih =>
      rw [List.forall_mem_cons] at hsnippets
      refine .andThen (contribute_paired hitem scope hwithin _ _ snippet hsnippets.1) fun _ => ?_
      exact .andThen (ih hsnippets.2) fun _ => .done

theorem activityContributions_paired (hsnippets : w'.manager.snippets = w.manager.snippets) {item item' : Item}
    (hitem : p.on item item') (parent : Scope) (hwithin : within <+: parent.location) :
    ArePaired w w' p within (activityContributions w item parent) (activityContributions w' item' parent) := by
  unfold activityContributions
  rw [p.type_eq hitem]
  refine .andThen (.debug _ _ _ _ (by decide)) fun _ => .bind (resolve_paired hsnippets _ _) fun found hfound => ?_
  cases found with
  | none => exact .done
  | some snippet =>
      exact .andThen (contribute_paired hitem parent hwithin _ _ _ (hfound snippet rfl)) fun _ => .done

theorem channelContributions_paired (hsnippets : w'.manager.snippets = w.manager.snippets) (kind : String)
    {item item' : Item} (hitem : p.on item item') (parent : Scope) (hwithin : within <+: parent.location) :
    ArePaired w w' p within (channelContributions kind w item parent) (channelContributions kind w' item' parent) := by
  unfold channelContributions
  dsimp only
  rw [ProcessManager.snippetsBelow_congr hsnippets]
  split
  · refine .andThen (.debug _ _ _ _ (by decide)) fun _ => ?_
    exact activityContributions_paired hsnippets hitem parent hwithin
  · exact contributeAll_paired hitem parent hwithin _ _ _ fun _ => ProcessManager.mem_of_mem_snippetsBelow

theorem prebuiltContributions_paired (hsnippets : w'.manager.snippets = w.manager.snippets) {item item' : Item}
    (hitem : p.on item item') (scope : Scope) (hwithin : within <+: scope.location) :
    ArePaired w w' p within (prebuiltContributions w item scope) (prebuiltContributions w' item' scope) := by
  unfold prebuiltContributions
  dsimp only
  rw [p.type_eq hitem, ProcessManager.snippetsBelow_congr hsnippets]
  split
  · exact .done
  · exact contributeAll_paired hitem scope hwithin _ _ _ fun _ => ProcessManager.mem_of_mem_snippetsBelow

end Build

namespace Registry

theorem standard_containerHandler (type : String) :
    standard.containerHandler type = if type = "DecisionBranch" then .decision else .standard := by
  by_cases h : type = "DecisionBranch"
  · subst h
    rfl
  · have hne : (type == "DecisionBranch") = false := by simpa using h
    simp [standard, standardRegistrations, registerAll, register, empty, put, containerHandler, List.lookup_cons, hne,
      h]

theorem standard_activityHandler (type : String) :
    standard.activityHandler type =
      if type = "Receive" then .receive else if type = "Send" then .send else .standard := by
  by_cases hreceive : type = "Receive"
  · subst hreceive
    rfl
  · by_cases hsend : type = "Send"
    · subst hsend
      rfl
    · have hr : (type == "Receive") = false := by simpa using hreceive
      have hs : (type == "Send") = false := by simpa using hsend
      simp [standard, standardRegistrations, registerAll, register, empty, put, activityHandler, List.lookup_cons, hr,
        hs, hreceive, hsend]

/-- A registry of the handlers that are defined here, under whichever types. -/
structure BuiltIn (r : Registry) : Prop where
  containers : ∀ entry ∈ r.containers, entry.2 = .standard ∨ entry.2 = .decision
  activities : ∀ entry ∈ r.activities, entry.2 = .standard ∨ entry.2 = .send ∨ entry.2 = .receive

theorem standard_builtIn : standard.BuiltIn where
  containers entry h := by
    have hentry : entry = ("DecisionBranch", .decision) := List.mem_singleton.mp h
    exact .inr (by rw [hentry])
  activities entry h := by
    have hentry : entry = ("Receive", .receive) ∨ entry = ("Send", .send) := by
      rcases List.mem_cons.mp h with hreceive | hsend
      · exact .inl hreceive
      · exact .inr (List.mem_singleton.mp hsend)
    rcases hentry with rfl | rfl
    · exact .inr (.inr rfl)
    · exact .inr (.inl rfl)

/-- The handler that is found under a type is a registered one or else the standard one. -/
theorem getD_lookup {α : Type} {P : α → Prop} {handlers : List (String × α)} {standard : α} (hstandard : P standard)
    (h : ∀ entry ∈ handlers, P entry.2) (type : String) : P ((handlers.lookup type).getD standard) := by
  induction handlers with
  | nil => exact hstandard
  | cons first rest ih =>
      rw [List.forall_mem_cons] at h
      rw [List.lookup_cons]
      split
      · exact h.1
      · exact ih h.2

namespace BuiltIn

variable {r : Registry} {w w' : Workshop} {p : Pairing}

theorem container_paired (h : r.BuiltIn) (hsnippets : w'.manager.snippets = w.manager.snippets) (type : String)
    {item item' : Item} (hitem : p.on item item') (parent : Scope) :
    Build.Paired w w' p parent.location ((r.containerHandler type).convert w item parent)
      ((r.containerHandler type).convert w' item' parent) fun found =>
        ∀ scope, found = some scope → parent.location <+: scope.location := by
  have hwithin : parent.location <+: parent.location := List.prefix_refl _
  have hhandler : r.containerHandler type = .standard ∨ r.containerHandler type = .decision :=
    getD_lookup (P := fun handler : ContainerHandler => handler = .standard ∨ handler = .decision) (.inl rfl)
      h.containers type
  rcases hhandler with heq | heq
  · rw [heq]
    exact .bind (Build.openContainer_paired hsnippets hitem parent hwithin) fun o ho => .pure ho
  · rw [heq]
    exact .bind (Build.openBranch_paired hsnippets hitem parent hwithin) fun o ho => .pure ho

theorem activity_paired (h : r.BuiltIn) (hsnippets : w'.manager.snippets = w.manager.snippets) (type : String)
    {item item' : Item} (hitem : p.on item item') (parent : Scope) :
    Build.ArePaired w w' p parent.location ((r.activityHandler type).convert w item parent)
      ((r.activityHandler type).convert w' item' parent) := by
  have hwithin : parent.location <+: parent.location := List.prefix_refl _
  have hhandler : r.activityHandler type = .standard ∨ r.activityHandler type = .send ∨
      r.activityHandler type = .receive :=
    getD_lookup (P := fun handler : ActivityHandler => handler = .standard ∨ handler = .send ∨ handler = .receive)
      (.inl rfl) h.activities type
  rcases hhandler with heq | heq | heq
  · rw [heq]
    exact .andThen (Build.activityContributions_paired hsnippets hitem parent hwithin) fun _ => .done
  · rw [heq]
    exact .andThen (Build.channelContributions_paired hsnippets _ hitem parent hwithin) fun _ => .done
  · rw [heq]
    exact .andThen (Build.channelContributions_paired hsnippets _ hitem parent hwithin) fun _ => .done

end BuiltIn

end Registry

namespace Build

variable {w w' : Workshop} {p : Pairing} {within : List String}

theorem assembleContainer_paired {r : Registry} (hr : r.BuiltIn)
    (hsnippets : w'.manager.snippets = w.manager.snippets) {item item' : Item} (hitem : p.on item item')
    (parent : Scope) (hwithin : within <+: parent.location) (children children' : Scope → Build Unit)
    (hchildren : ∀ scope, within <+: scope.location → ArePaired w w' p within (children scope) (children' scope)) :
    ArePaired w w' p within (assembleContainer w r item parent children)
      (assembleContainer w' r item' parent children') := by
  unfold assembleContainer
  rw [p.type_eq hitem]
  refine .bind ((hr.container_paired hsnippets item.type hitem parent).widen hwithin) fun found hfound => ?_
  cases found with
  | none => exact .andThen (.debug _ _ _ _ (by decide)) fun _ => .done
  | some scope =>
      have hscope : within <+: scope.location := hwithin.trans (hfound scope rfl)
      refine .andThen (.andThen (prebuiltContributions_paired hsnippets hitem scope hscope) fun _ => .done)
        fun count => ?_
      have hrest : ArePaired w w' p within (do
          children scope
          Pure.pure true) (do
          children' scope
          Pure.pure true) := .andThen (hchildren scope hscope) fun _ => .done
      dsimp only
      split
      · exact .andThen (.debug _ _ _ _ (by decide)) fun _ => hrest
      · exact hrest

mutual

/-- The assembly of two activities, a case for each kind of node. -/
theorem assembleActivity_paired {r : Registry} (hr : r.BuiltIn) (hsnippets : w'.manager.snippets = w.manager.snippets)
    (place : Place) (parent : Scope) (hwithin : within <+: parent.location) :
    (a a' : Activity) → a.Corresponds p.on place a' →
      ArePaired w w' p within (assembleActivity w r place parent a) (assembleActivity w' r place parent a')
  | .leaf e, .leaf e', h => by
      have htype : e'.type = e.type := p.type_eq h
      rw [assembleActivity, assembleActivity, htype]
      exact (hr.activity_paired hsnippets e.type h parent).widen hwithin
  | .leaf _, .container _ _ _ _, h => absurd h id
  | .container _ _ _ _, .leaf _, h => absurd h id
  | .container _ activities _ _, .container _ activities' _ _, h =>
      assembleContainer_paired hr hsnippets h.1 parent hwithin _ _ fun scope hscope =>
        assembleActivities_paired hr hsnippets place scope hscope 0 activities activities' h.2

theorem assembleActivities_paired {r : Registry} (hr : r.BuiltIn)
    (hsnippets : w'.manager.snippets = w.manager.snippets) (place : Place) (scope : Scope)
    (hwithin : within <+: scope.location) (index : Nat) :
    (activities activities' : List Activity) → Activity.CorrespondIn p.on place index activities activities' →
      ArePaired w w' p within (assembleActivities w r place scope index activities)
        (assembleActivities w' r place scope index activities')
  | [], [], _ => .done
  | [], _ :: _, h => absurd h id
  | _ :: _, [], h => absurd h id
  | a :: rest, a' :: rest', h =>
      .andThen
        (.andThen (assembleActivity_paired hr hsnippets (place.child index) scope hwithin a a' h.1) fun _ => .done)
        fun _ => assembleActivities_paired hr hsnippets place scope hwithin (index + 1) rest rest' h.2

end

theorem assembleWorkflow_paired {r : Registry} (hr : r.BuiltIn) (hsnippets : w'.manager.snippets = w.manager.snippets)
    {flow flow' : Workflow} (hflow : flow.Corresponds p.on flow') (parent : Scope)
    (hwithin : within <+: parent.location) :
    ArePaired w w' p within (assembleWorkflow w r flow parent) (assembleWorkflow w' r flow' parent) :=
  assembleContainer_paired hr hsnippets hflow.itself parent hwithin _ _ fun scope hscope =>
    assembleActivities_paired hr hsnippets .workflow scope hscope 0 flow.activities flow'.activities hflow.activities

theorem insertTriggers_paired (scope : Scope) (hwithin : within <+: scope.location) (channel channel' : String)
    (triggers : Fields) :
    ArePaired w w' p within (insertTriggers w scope channel triggers) (insertTriggers w' scope channel' triggers) := by
  induction triggers with
  | nil => exact .done
  | cons trigger rest ih =>
      obtain ⟨name, body⟩ := trigger
      refine .andThen (.add scope hwithin name body) fun added => ?_
      cases added with
      | true => exact .andThen (.debug _ _ _ _ (by decide)) fun _ => .andThen ih fun _ => .done
      | false => exact .andThen ih fun _ => .done

theorem triggersFor_paired (hmodel : p.renders (modelItem w) (modelItem w')) (scope : Scope)
    (hwithin : within <+: scope.location) (channel channel' : Channel) (snippets : List Snippet)
    (hsnippets : ∀ s ∈ snippets, s ∈ w.manager.snippets) :
    ArePaired w w' p within (triggersFor w scope channel snippets) (triggersFor w' scope channel' snippets) := by
  induction snippets with
  | nil => exact .done
  | cons snippet rest ih =>
      rw [List.forall_mem_cons] at hsnippets
      refine .andThen (.render _ _ _ hsnippets.1 hmodel) fun payload => ?_
      exact .andThen (insertTriggers_paired scope hwithin _ _ _) fun _ => .andThen (ih hsnippets.2) fun _ => .done

theorem triggersForAll_paired (hmodel : p.renders (modelItem w) (modelItem w')) (scope : Scope)
    (hwithin : within <+: scope.location) (snippets : List Snippet)
    (hsnippets : ∀ s ∈ snippets, s ∈ w.manager.snippets) (channels channels' : List Channel)
    (hlength : channels'.length = channels.length) :
    ArePaired w w' p within (triggersForAll w scope snippets channels) (triggersForAll w' scope snippets channels') := by
  induction channels generalizing channels' with
  | nil =>
      rw [List.eq_nil_of_length_eq_zero hlength]
      exact .done
  | cons channel rest ih =>
      cases channels' with
      | nil => cases hlength
      | cons channel' rest' =>
          refine .andThen (triggersFor_paired hmodel scope hwithin channel channel' snippets hsnippets) fun _ => ?_
          exact .andThen (ih rest' (Nat.succ.inj hlength)) fun _ => .done

/-- The channels that start the workflow of a workshop. -/
def activatorsOf (w : Workshop) : List Channel := (w.manager.workflow.map (·.activators)).getD []

theorem length_activatorsOf (hw : w.Counterparts p w') : (activatorsOf w').length = (activatorsOf w).length := by
  have hworkflow := hw.workflow
  rw [activatorsOf, activatorsOf]
  generalize w.manager.workflow = flow at hworkflow
  generalize w'.manager.workflow = flow' at hworkflow
  cases hworkflow with
  | none => rfl
  | some hflow => exact hflow.activators

theorem addTriggers_paired (hw : w.Counterparts p w') : ArePaired w w' p [] (addTriggers w) (addTriggers w') := by
  have hlength := length_activatorsOf hw
  have hempty : (activatorsOf w').isEmpty = (activatorsOf w).isEmpty := by
    rw [Bool.eq_iff_iff, List.isEmpty_iff_length_eq_zero, List.isEmpty_iff_length_eq_zero, hlength]
  unfold addTriggers
  dsimp only
  rw [← activatorsOf, ← activatorsOf, hempty, ProcessManager.snippetsBelow_congr hw.snippets]
  split
  · exact .done
  · split
    · exact .andThen (.debug _ _ _ _ (by decide)) fun _ => .done
    · refine .read (fun _ _ h => by simp only [h]) (fun _ _ h => by simp only [h]) fun b => ?_
      cases Document.triggers? b.document with
      | none => exact .andThen (.record _ _ _ (by decide)) fun _ => .done
      | some scope =>
          exact triggersForAll_paired hw.model _ List.nil_prefix _
            (fun _ => ProcessManager.mem_of_mem_snippetsBelow) _ _ hlength

theorem insertDeclarations_paired (scope : Scope) (hwithin : within <+: scope.location) (declarations : Fields) :
    ArePaired w w' p within (insertDeclarations w scope declarations) (insertDeclarations w' scope declarations) := by
  induction declarations with
  | nil => exact .done
  | cons declaration rest ih =>
      obtain ⟨name, body⟩ := declaration
      refine .andThen (.add scope hwithin name body) fun added => ?_
      cases added with
      | true => exact .andThen (.debug _ _ _ _ (by decide)) fun _ => .andThen ih fun _ => .done
      | false => exact .andThen (.warning _ _ _ _ (by decide)) fun _ => .andThen ih fun _ => .done

theorem declare_paired (k : DeclarationKind) (scope : Scope) (hwithin : within <+: scope.location)
    {item item' : Option Item} (hitem : p.renders item item') (snippet : Snippet)
    (hsnippet : snippet ∈ w.manager.snippets) :
    ArePaired w w' p within (declare w k scope item snippet) (declare w' k scope item' snippet) :=
  .andThen (.render item item' snippet hsnippet hitem) fun _ => insertDeclarations_paired scope hwithin _

theorem declareFrom_paired (k : DeclarationKind) (scope : Scope) (hwithin : within <+: scope.location)
    {item item' : Option Item} (hitem : p.renders item item') (snippets : List Snippet)
    (hsnippets : ∀ s ∈ snippets, s ∈ w.manager.snippets) :
    ArePaired w w' p within (declareFrom w k scope item snippets) (declareFrom w' k scope item' snippets) := by
  induction snippets with
  | nil => exact .done
  | cons snippet rest ih =>
      rw [List.forall_mem_cons] at hsnippets
      refine .andThen (declare_paired k scope hwithin hitem snippet hsnippets.1) fun _ => ?_
      exact .andThen (ih hsnippets.2) fun _ => .done

theorem declareItems_paired (k : DeclarationKind) (scope : Scope) (hwithin : within <+: scope.location)
    (placeholder : Option Snippet) (hplaceholder : ∀ s, placeholder = some s → s ∈ w.manager.snippets)
    {items items' : List Item} (hitems : List.Forall₂ p.on items items') :
    ArePaired w w' p within (declareItems w k scope placeholder items) (declareItems w' k scope placeholder items') := by
  induction hitems with
  | nil => exact .done
  | cons hitem _ ih =>
      cases placeholder with
      | some snippet =>
          refine .andThen (declare_paired k scope hwithin hitem _ (hplaceholder snippet rfl)) fun _ => ?_
          exact .andThen ih fun _ => .done
      | none =>
          refine .andThen (.debug _ _ _ _ (by decide)) fun _ => .andThen .done fun _ => ?_
          exact .andThen ih fun _ => .done

theorem addDeclarations_paired (hw : w.Counterparts p w') (k : DeclarationKind)
    (hitems : ∀ flow flow', flow.Corresponds p.on flow' → List.Forall₂ p.on (k.items flow) (k.items flow')) :
    ArePaired w w' p [] (addDeclarations w k) (addDeclarations w' k) := by
  have hworkflow := hw.workflow
  have hmodel := hw.model
  unfold addDeclarations
  rw [ProcessManager.snippetsUnder_congr hw.snippets, ProcessManager.findSnippet_congr hw.snippets]
  refine .read (fun _ _ h => by simp only [h]) (fun _ _ h => by simp only [h]) fun b => ?_
  cases Document.actions? b.document with
  | none => exact .andThen (.record _ _ _ (by decide)) fun _ => .done
  | some scope =>
      refine .andThen (declareFrom_paired k _ List.nil_prefix hmodel _
        fun _ => ProcessManager.mem_of_mem_snippetsUnder) fun general => ?_
      generalize w.manager.workflow = flow at hworkflow
      generalize w'.manager.workflow = flow' at hworkflow
      cases hworkflow with
      | none => exact .done
      | some hflow =>
          exact .andThen (declareItems_paired k _ List.nil_prefix _ (fun _ => ProcessManager.mem_of_findSnippet)
            (hitems _ _ hflow)) fun _ => .done

theorem addVariables_paired (hw : w.Counterparts p w') : ArePaired w w' p [] (addVariables w) (addVariables w') :=
  addDeclarations_paired hw .vars fun _ _ hflow => hflow.vars

theorem addMessages_paired (hw : w.Counterparts p w') : ArePaired w w' p [] (addMessages w) (addMessages w') :=
  addDeclarations_paired hw .messages fun _ _ hflow => hflow.messages

theorem insertParameters_paired (skeleton parameters : Fields) :
    ArePaired w w' p within (insertParameters w skeleton parameters) (insertParameters w' skeleton parameters) := by
  induction parameters generalizing skeleton with
  | nil => exact .done
  | cons parameter rest ih =>
      obtain ⟨name, value⟩ := parameter
      unfold insertParameters
      dsimp only
      split
      · exact .andThen (.warning _ _ _ _ (by decide)) fun _ => ih _
      · exact .andThen (.debug _ _ _ _ (by decide)) fun _ => .andThen (ih _) fun _ => .done

theorem parametersFrom_paired (hmodel : p.renders (modelItem w) (modelItem w')) (skeleton : Fields)
    (snippets : List Snippet) (hsnippets : ∀ s ∈ snippets, s ∈ w.manager.snippets) :
    ArePaired w w' p within (parametersFrom w skeleton snippets) (parametersFrom w' skeleton snippets) := by
  induction snippets generalizing skeleton with
  | nil => exact .done
  | cons snippet rest ih =>
      rw [List.forall_mem_cons] at hsnippets
      refine .andThen (.renderJson _ _ _ hsnippets.1 hmodel) fun data => ?_
      exact .andThen (insertParameters_paired _ _) fun _ => .andThen (ih _ hsnippets.2) fun _ => .done

theorem addParameters_paired (hw : w.Counterparts p w') (skeleton : Fields) :
    ArePaired w w' p within (addParameters w skeleton) (addParameters w' skeleton) := by
  unfold addParameters
  rw [ProcessManager.snippetsUnder_congr hw.snippets]
  split
  · exact .andThen (.debug _ _ _ _ (by decide)) fun _ => .done
  · exact parametersFrom_paired hw.model _ _ fun _ => ProcessManager.mem_of_mem_snippetsUnder

end Build

end WorkflowForge
