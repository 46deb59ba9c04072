import WorkflowForge.Proofs.Assembly.Operations

/-!
Workflows that differ in their numbers alone. An element without its stamp keeps its name and its type, and a workflow
without stamps keeps its shape. So if two workflows are the same without their stamps, their elements correspond, place
by place, by what can be told without looking at properties.
-/

namespace WorkflowForge

/-- The element without its stamp. -/
def Element.unnumbered (e : Element) : Element :=
  { e with properties := e.properties.filter fun p => p.1 != stampName }

def Variable.unnumbered (v : Variable) : Variable := { v with element := v.element.unnumbered }

def Message.unnumbered (m : Message) : Message := { m with element := m.element.unnumbered }

def Channel.unnumbered (c : Channel) : Channel := { c with element := c.element.unnumbered }

mutual

def Activity.unnumbered : Activity → Activity
  | .leaf e => .leaf e.unnumbered
  | .container e activities vars messages =>
    .container e.unnumbered (unnumberedIn activities) (vars.map Variable.unnumbered) (messages.map Message.unnumbered)

def Activity.unnumberedIn : List Activity → List Activity
  | [] => []
  | a :: rest => Activity.unnumbered a :: unnumberedIn rest

end

/-- The workflow without any stamps. -/
def Workflow.unnumbered (flow : Workflow) : Workflow where
  element := flow.element.unnumbered
  activities := Activity.unnumberedIn flow.activities
  vars := flow.vars.map Variable.unnumbered
  messages := flow.messages.map Message.unnumbered
  channels := flow.channels.map Channel.unnumbered

/-- The process manager with all stamps taken off its workflow. -/
def ProcessManager.unnumbered (m : ProcessManager) : ProcessManager :=
  { m with workflow := m.workflow.map (·.unnumbered) }

/-- What can be told of an item without looking at properties. -/
def Item.heading (i : Item) : String × String := (i.name, i.type)

namespace Activity

theorem heading_ofActivity_unnumbered (place : Place) (a : Activity) :
    (Item.ofActivity place a.unnumbered).heading = (Item.ofActivity place a).heading := by
  cases a <;> rfl

theorem vars_unnumbered (a : Activity) : a.unnumbered.vars = a.vars.map Variable.unnumbered := by
  cases a <;> rfl

theorem messages_unnumbered (a : Activity) : a.unnumbered.messages = a.messages.map Message.unnumbered := by
  cases a <;> rfl

mutual

theorem corresponds_of_unnumbered_eq {R : Item → Item → Prop} (hR : ∀ i j : Item, j.heading = i.heading → R i j)
    (place : Place) : (a a' : Activity) → a'.unnumbered = a.unnumbered → Corresponds R place a a'
  | .leaf e, .leaf e', h => by
      have hhere := heading_ofActivity_unnumbered place (.leaf e')
      rw [h, heading_ofActivity_unnumbered] at hhere
      exact hR _ _ hhere.symm
  | .leaf e, .container e' activities' vars' messages', h => by cases h
  | .container e activities vars messages, .leaf e', h => by cases h
  | .container e activities vars messages, .container e' activities' vars' messages', h => by
      have hhere := heading_ofActivity_unnumbered place (.container e' activities' vars' messages')
      rw [h, heading_ofActivity_unnumbered] at hhere
      rw [unnumbered, unnumbered, Activity.container.injEq] at h
      exact ⟨hR _ _ hhere.symm, correspondIn_of_unnumbered_eq hR place 0 activities activities' h.2.1⟩

theorem correspondIn_of_unnumbered_eq {R : Item → Item → Prop} (hR : ∀ i j : Item, j.heading = i.heading → R i j)
    (place : Place) (index : Nat) : (activities activities' : List Activity) →
    unnumberedIn activities' = unnumberedIn activities → CorrespondIn R place index activities activities'
  | [], [], _ => trivial
  | [], a' :: rest', h => by cases h
  | a :: rest, [], h => by cases h
  | a :: rest, a' :: rest', h => by
      rw [unnumberedIn, unnumberedIn, List.cons.injEq] at h
      exact ⟨corresponds_of_unnumbered_eq hR _ a a' h.1,
        correspondIn_of_unnumbered_eq hR place (index + 1) rest rest' h.2⟩

end

mutual

theorem containersAt_unnumbered (place : Place) : (a : Activity) →
    containersAt place a.unnumbered = (containersAt place a).map fun c => (c.1, c.2.unnumbered)
  | .leaf e => rfl
  | .container e activities vars messages => by
      rw [unnumbered, containersAt, containersAt, containersAtIn_unnumbered place 0 activities]
      rfl

theorem containersAtIn_unnumbered (place : Place) (index : Nat) : (activities : List Activity) →
    containersAtIn place index (unnumberedIn activities) =
      (containersAtIn place index activities).map fun c => (c.1, c.2.unnumbered)
  | [] => rfl
  | a :: rest => by
      rw [unnumberedIn, containersAtIn, containersAtIn, containersAt_unnumbered, containersAtIn_unnumbered,
        List.map_append]

end

end Activity

namespace Workflow

/-- What is listed container by container has the same headings without stamps, if it has them in each container. -/
theorem headings_unnumbered (flow : Workflow) {items : Place × Activity → List Item}
    (h : ∀ place a, (items (place, a.unnumbered)).map Item.heading = (items (place, a)).map Item.heading) :
    ((flow.unnumbered.root.containersAt .workflow).flatMap items).map Item.heading =
      ((flow.root.containersAt .workflow).flatMap items).map Item.heading := by
  have hroot : flow.unnumbered.root = flow.root.unnumbered := rfl
  rw [hroot, Activity.containersAt_unnumbered, List.flatMap_map, List.map_flatMap, List.map_flatMap]
  exact List.flatMap_congr fun c _ => h c.1 c.2

theorem variableItems_unnumbered (flow : Workflow) :
    flow.unnumbered.variableItems.map Item.heading = flow.variableItems.map Item.heading := by
  refine flow.headings_unnumbered fun place a => ?_
  simp only [Activity.vars_unnumbered, List.zipIdx_map, List.map_map]
  rfl

theorem messageItems_unnumbered (flow : Workflow) :
    flow.unnumbered.messageItems.map Item.heading = flow.messageItems.map Item.heading := by
  refine flow.headings_unnumbered fun place a => ?_
  simp only [Activity.messages_unnumbered, List.zipIdx_map, List.map_map]
  rfl

theorem length_activators_unnumbered (flow : Workflow) :
    flow.unnumbered.activators.length = flow.activators.length := by
  have hactivator : (fun c : Channel => c.activator) ∘ Channel.unnumbered = fun c => c.activator := rfl
  rw [activators, activators, unnumbered, List.filter_map, List.length_map, hactivator]

variable {R : Item → Item → Prop} (hR : ∀ i j : Item, j.heading = i.heading → R i j)

include hR

theorem forall₂_of_headings_eq {items items' : List Item} (h : items'.map Item.heading = items.map Item.heading) :
    List.Forall₂ R items items' := by
  have hsame : List.Forall₂ (· = ·) (items.map Item.heading) (items'.map Item.heading) := by
    rw [h]
    exact List.forall₂_refl _
  rw [List.forall₂_map_left_iff, List.forall₂_map_right_iff] at hsame
  exact hsame.imp fun i j hij => hR i j hij.symm

/-- Workflows that are the same without their stamps correspond. -/
theorem corresponds_of_unnumbered_eq {flow flow' : Workflow} (h : flow'.unnumbered = flow.unnumbered) :
    flow.Corresponds R flow' where
  itself := by
    apply hR
    have helement : flow'.element.unnumbered = flow.element.unnumbered := congrArg Workflow.element h
    have hname : flow'.element.unnumbered.name = flow.element.unnumbered.name := by rw [helement]
    have htype : flow'.element.unnumbered.type = flow.element.unnumbered.type := by rw [helement]
    exact Prod.ext hname htype
  activities := Activity.correspondIn_of_unnumbered_eq hR .workflow 0 _ _ (congrArg Workflow.activities h)
  vars := by
    apply forall₂_of_headings_eq hR
    rw [← variableItems_unnumbered, h, variableItems_unnumbered]
  messages := by
    apply forall₂_of_headings_eq hR
    rw [← messageItems_unnumbered, h, messageItems_unnumbered]
  activators := by rw [← length_activators_unnumbered, h, length_activators_unnumbered]

end Workflow

namespace ProcessManager

variable {m m' : ProcessManager} (h : m'.unnumbered = m.unnumbered)

include h

theorem name_eq_of_unnumbered_eq : m'.name = m.name := by
  change m'.unnumbered.name = m.unnumbered.name
  rw [h]

theorem snippets_eq_of_unnumbered_eq : m'.snippets = m.snippets := by
  change m'.unnumbered.snippets = m.unnumbered.snippets
  rw [h]

theorem workflow_eq_of_unnumbered_eq : m'.workflow.map (·.unnumbered) = m.workflow.map (·.unnumbered) := by
  change m'.unnumbered.workflow = m.unnumbered.workflow
  rw [h]

end ProcessManager

/-- Process managers that are the same without stamps have the same snippets, and workflows that correspond. -/
theorem Workshop.counterparts_of_unnumbered_eq {p : Pairing}
    (hp : ∀ item item' : Option Item, item'.map Item.heading = item.map Item.heading → p.renders item item')
    {w w' : Workshop} (h : w'.manager.unnumbered = w.manager.unnumbered) : w.Counterparts p w' where
  snippets := ProcessManager.snippets_eq_of_unnumbered_eq h
  workflow := by
    have hworkflow := ProcessManager.workflow_eq_of_unnumbered_eq h
    generalize w.manager.workflow = flow at hworkflow
    generalize w'.manager.workflow = flow' at hworkflow
    cases flow with
    | none =>
        rw [Option.map_none, Option.map_eq_none_iff] at hworkflow
        rw [hworkflow]
        exact .none
    | some flow =>
        obtain ⟨other, rfl, hsame⟩ := Option.map_eq_some_iff.mp hworkflow
        have hitems (i j : Item) (hij : j.heading = i.heading) : p.renders (some i) (some j) :=
          hp (some i) (some j) (congrArg some hij)
        exact .some (Workflow.corresponds_of_unnumbered_eq hitems hsame)
  nothing _ := hp none none rfl

end WorkflowForge
