import Mathlib.Data.List.Forall2
import WorkflowForge.Assembly.Render
import WorkflowForge.Generation.Generator

/-!
Models that differ in their stamps alone. Each element of one is an element of the other, in the same place and with the
same name, type, key and description; its properties are the same too, in the same order, except that the stamp may have
another number, or stand at the end where there was none. Whatever stamps are put on a model, this is all that they
change, and it is all that a template can see of them.
-/

namespace WorkflowForge

/-- Properties that differ in the stamp alone, which keeps its place if it has one and comes last if it is new. -/
inductive Properties.Restamped : Properties → Properties → Prop
  | same (properties : Properties) : Restamped properties properties
  | replaced (before after : Properties) (old : Datum) (id : Int)
      (hfirst : Element.stampName ∉ before.map Prod.fst) :
      Restamped (before ++ (Element.stampName, old) :: after) (before ++ (Element.stampName, .int id) :: after)
  | appended (properties : Properties) (id : Int) (hnew : Element.stampName ∉ properties.map Prod.fst) :
      Restamped properties (properties ++ [(Element.stampName, .int id)])

theorem Properties.restamped_set (properties : Properties) (id : Int) :
    Restamped properties (properties.set Element.stampName (.int id)) := by
  -- The properties before the stamp, or all of them where there is none, are passed over one by one.
  have hpassed (passed rest : Properties) (hpassed : Element.stampName ∉ passed.map Prod.fst) :
      Restamped (passed ++ rest) (passed ++ rest.set Element.stampName (.int id)) := by
    induction rest generalizing passed with
    | nil =>
        rw [List.append_nil]
        exact .appended passed id hpassed
    | cons first rest ih =>
        obtain ⟨key, old⟩ := first
        rw [set]
        split
        · next hkey =>
            rw [eq_of_beq hkey]
            exact .replaced passed rest old id hpassed
        · next hkey =>
            have hstill : Element.stampName ∉ (passed ++ [(key, old)]).map Prod.fst := by
              rw [beq_iff_eq] at hkey
              simpa using ⟨by simpa using hpassed, Ne.symm hkey⟩
            simpa using ih (passed ++ [(key, old)]) hstill
  exact hpassed [] properties List.not_mem_nil

/-- Elements that differ in the stamp alone. -/
structure Element.Restamped (e e' : Element) : Prop where
  name : e'.name = e.name
  type : e'.type = e.type
  key : e'.key = e.key
  description : e'.description = e.description
  properties : e.properties.Restamped e'.properties

structure Variable.Restamped (v v' : Variable) : Prop where
  element : v.element.Restamped v'.element
  dataType : v'.dataType = v.dataType

structure Message.Restamped (m m' : Message) : Prop where
  element : m.element.Restamped m'.element
  messageType : m'.messageType = m.messageType

/-- Activities that differ in stamps alone, with the same activities, variables and messages in them. -/
inductive Activity.Restamped : Activity → Activity → Prop
  | leaf {e e' : Element} (helement : e.Restamped e') : Restamped (.leaf e) (.leaf e')
  | container {e e' : Element} {activities activities' : List Activity} {vars vars' : List Variable}
      {messages messages' : List Message} (helement : e.Restamped e')
      (hactivities : List.Forall₂ Restamped activities activities') (hvars : List.Forall₂ Variable.Restamped vars vars')
      (hmessages : List.Forall₂ Message.Restamped messages messages') :
      Restamped (.container e activities vars messages) (.container e' activities' vars' messages')

structure Workflow.Restamped (flow flow' : Workflow) : Prop where
  element : flow.element.Restamped flow'.element
  activities : List.Forall₂ Activity.Restamped flow.activities flow'.activities
  vars : List.Forall₂ Variable.Restamped flow.vars flow'.vars
  messages : List.Forall₂ Message.Restamped flow.messages flow'.messages
  channels : flow'.channels = flow.channels

/-- Process managers whose workflows differ in stamps alone, and that have the same snippets and resources. -/
structure ProcessManager.Restamped (m m' : ProcessManager) : Prop where
  name : m'.name = m.name
  key : m'.key = m.key
  snippets : m'.snippets = m.snippets
  resources : m'.resources = m.resources
  workflow : Option.Rel Workflow.Restamped m.workflow m'.workflow

structure Application.Restamped (a a' : Application) : Prop where
  name : a'.name = a.name
  processManagers : List.Forall₂ ProcessManager.Restamped a.processManagers a'.processManagers

structure MigrationModel.Restamped (model model' : MigrationModel) : Prop where
  target : model'.target = model.target
  applications : List.Forall₂ Application.Restamped model.applications model'.applications

theorem forall₂_zipIdx_map {α β : Type} {R : α → β → Prop} {f : α × Nat → β} (h : ∀ a i, R a (f (a, i)))
    (items : List α) (start : Nat) : List.Forall₂ R items ((items.zipIdx start).map f) := by
  induction items generalizing start with
  | nil => exact .nil
  | cons a rest ih => exact .cons (h a start) (ih (start + 1))

theorem Element.Restamped.refl (e : Element) : e.Restamped e := ⟨rfl, rfl, rfl, rfl, .same _⟩

theorem Element.restamped_stamp (e : Element) (id : Int) : e.Restamped (e.stamp id) :=
  ⟨rfl, rfl, rfl, rfl, Properties.restamped_set e.properties id⟩

namespace Stamps

variable (s : Stamps)

theorem restamped_on (place : Place) (e : Element) : e.Restamped (s.on place e) := by
  unfold on
  split
  · exact e.restamped_stamp _
  · exact .refl e

theorem restamped_onVariables (place : Place) (vars : List Variable) :
    List.Forall₂ Variable.Restamped vars (s.onVariables place vars) :=
  forall₂_zipIdx_map (fun v _ => ⟨s.restamped_on _ v.element, rfl⟩) vars 0

theorem restamped_onMessages (place : Place) (messages : List Message) :
    List.Forall₂ Message.Restamped messages (s.onMessages place messages) :=
  forall₂_zipIdx_map (fun m _ => ⟨s.restamped_on _ m.element, rfl⟩) messages 0

mutual

theorem restamped_onActivity (place : Place) : (a : Activity) → a.Restamped (s.onActivity place a)
  | .leaf e => .leaf (s.restamped_on place e)
  | .container e activities vars messages =>
    .container (s.restamped_on place e) (restamped_onActivities place 0 activities)
      (s.restamped_onVariables place vars) (s.restamped_onMessages place messages)

theorem restamped_onActivities (place : Place) (index : Nat) : (activities : List Activity) →
    List.Forall₂ Activity.Restamped activities (s.onActivities place index activities)
  | [] => .nil
  | a :: rest => .cons (restamped_onActivity (place.child index) a) (restamped_onActivities place (index + 1) rest)

end

theorem restamped_onWorkflow (flow : Workflow) : flow.Restamped (s.onWorkflow flow) where
  element := s.restamped_on _ flow.element
  activities := s.restamped_onActivities _ 0 flow.activities
  vars := s.restamped_onVariables _ flow.vars
  messages := s.restamped_onMessages _ flow.messages
  channels := rfl

/-- The process manager with stamps on its workflow. -/
def onManager (m : ProcessManager) : ProcessManager := { m with workflow := m.workflow.map s.onWorkflow }

theorem restamped_onManager (m : ProcessManager) : m.Restamped (s.onManager m) where
  name := rfl
  key := rfl
  snippets := rfl
  resources := rfl
  workflow := by
    rw [onManager]
    cases m.workflow with
    | none => exact .none
    | some flow => exact .some (s.restamped_onWorkflow flow)

end Stamps

theorem MigrationModel.restamped_stamped (model : MigrationModel) (stamps : List ((Nat × Nat) × Stamps)) :
    model.Restamped (model.stamped stamps) where
  target := rfl
  applications := by
    refine forall₂_zipIdx_map (fun a number => ⟨rfl, ?_⟩) model.applications 0
    exact forall₂_zipIdx_map (fun m index => Stamps.restamped_onManager _ m) a.processManagers 0

namespace Template

/-- Parts of a model that differ in stamps alone. -/
inductive Subject.Restamped : Subject → Subject → Prop
  | same (s : Subject) : Restamped s s
  | stored {v v' : Variable} (h : v.Restamped v') : Restamped (.stored v) (.stored v')
  | message {m m' : Message} (h : m.Restamped m') : Restamped (.message m) (.message m')
  | activity {a a' : Activity} (h : a.Restamped a') : Restamped (.activity a) (.activity a')
  | workflow {w w' : Workflow} (h : w.Restamped w') : Restamped (.workflow w) (.workflow w')
  | manager {p p' : ProcessManager} (h : p.Restamped p') : Restamped (.manager p) (.manager p')

/-- Values that are the same, or parts of a model that differ in stamps alone. -/
inductive Value.Restamped : Value → Value → Prop
  | same (v : Value) : Restamped v v
  | subject {s s' : Subject} (h : s.Restamped s') : Restamped (.subject s) (.subject s')

end Template

theorem Item.restamped_stamped (i : Item) (s : Stamps) : i.subject.Restamped (i.stamped s) := by
  unfold stamped
  split
  · next a h =>
      rw [h]
      exact .activity (s.restamped_onActivity i.place a)
  · next w h =>
      rw [h]
      exact .workflow (s.restamped_onWorkflow w)
  · next v h =>
      rw [h]
      exact .stored ⟨s.restamped_on i.place v.element, rfl⟩
  · next m h =>
      rw [h]
      exact .message ⟨s.restamped_on i.place m.element, rfl⟩
  · exact .same _

namespace Workshop

/-- What a template would be given if there were no stamps. -/
def unstampedEnvironment (w : Workshop) (snippet : Snippet) (item : Option Item) : Template.Env :=
  let orNothing (s : Option Template.Subject) : Template.Value := (s.map Template.Value.subject).getD .nothing
  [("model", orNothing (w.manager.workflow.map .workflow)),
    ("process_manager", .subject (.manager w.manager)),
    ("resource_template", orNothing (w.resource.map .resource)),
    ("snippet", .subject (.snippet snippet)),
    ("workflow_object", orNothing (item.map (·.subject)))]

/-- A template is given the model as it is, with stamps on it, and the snippet and the resource template as they are. -/
theorem restamped_environment (w : Workshop) (stamps : Stamps) (snippet : Snippet) (item : Option Item) :
    List.Forall₂ (fun v v' => v'.1 = v.1 ∧ v.2.Restamped v'.2) (w.unstampedEnvironment snippet item)
      (w.environment stamps snippet item) := by
  refine .cons ⟨rfl, ?_⟩ (.cons ⟨rfl, ?_⟩ (.cons ⟨rfl, .same _⟩ (.cons ⟨rfl, .same _⟩ (.cons ⟨rfl, ?_⟩ .nil))))
  · cases w.manager.workflow with
    | none => exact .same _
    | some flow => exact .subject (.workflow (stamps.restamped_onWorkflow flow))
  · exact .subject (.manager (stamps.restamped_onManager w.manager))
  · cases item with
    | none => exact .same _
    | some i => exact .subject (i.restamped_stamped stamps)

end Workshop

end WorkflowForge
