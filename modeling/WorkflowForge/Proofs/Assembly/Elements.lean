import WorkflowForge.Assembly.Stamps

/-!
The elements of a workflow and the places where they stand. An activity is reached from the workflow by going down, each
time to the child of an index; an element is then the activity itself or one of the declarations that stand in it. All
that is listed for declaration stands at the place that is noted with it. Stamps are put on a workflow place by place:
the element at a place gets the stamp that is given there, and nothing else changes.
-/

namespace WorkflowForge

namespace Place

/-- The place that is reached from another by going down. -/
def below (p : Place) (path : List Nat) : Place := { p with path := p.path ++ path }

@[simp]
theorem below_nil (p : Place) : p.below [] = p := by
  rw [below, List.append_nil]

theorem child_below (p : Place) (index : Nat) (path : List Nat) :
    (p.child index).below path = p.below (index :: path) := by
  simp [below, child]

end Place

namespace Activity

mutual

/-- The elements of an activity: its own, those declared in it, and those of the activities in it. -/
def elements : Activity → List Element
  | .leaf e => [e]
  | .container e activities vars messages =>
    e :: (vars.map (·.element) ++ messages.map (·.element) ++ elementsIn activities)

def elementsIn : List Activity → List Element
  | [] => []
  | a :: rest => elements a ++ elementsIn rest

end

theorem element_mem_elements (a : Activity) : a.element ∈ a.elements := by
  cases a <;> simp [element, elements]

theorem variable_mem_elements {a : Activity} {v : Variable} (h : v ∈ a.vars) : v.element ∈ a.elements := by
  cases a with
  | leaf e => cases h
  | container e activities vars messages =>
      have hmem : v.element ∈ vars.map (·.element) := List.mem_map_of_mem h
      simp only [elements, List.mem_cons, List.mem_append, hmem, true_or, or_true]

theorem message_mem_elements {a : Activity} {m : Message} (h : m ∈ a.messages) : m.element ∈ a.elements := by
  cases a with
  | leaf e => cases h
  | container e activities vars messages =>
      have hmem : m.element ∈ messages.map (·.element) := List.mem_map_of_mem h
      simp only [elements, List.mem_cons, List.mem_append, hmem, true_or, or_true]

theorem mem_elementsIn_of_mem {activities : List Activity} {a : Activity} {e : Element} (ha : a ∈ activities)
    (he : e ∈ a.elements) : e ∈ elementsIn activities := by
  induction activities with
  | nil => cases ha
  | cons first rest ih =>
      rw [elementsIn, List.mem_append]
      rcases List.mem_cons.mp ha with rfl | hrest
      · exact .inl he
      · exact .inr (ih hrest)

theorem mem_elements_of_mem_children {a child : Activity} {e : Element} (hchild : child ∈ a.children)
    (he : e ∈ child.elements) : e ∈ a.elements := by
  cases a with
  | leaf _ => cases hchild
  | container own activities vars messages =>
      rw [elements]
      exact List.mem_cons_of_mem _ (List.mem_append_right _ (mem_elementsIn_of_mem hchild he))

/-- The activity that is reached from another by going down. -/
def at? : Activity → List Nat → Option Activity
  | a, [] => some a
  | a, index :: path => a.children[index]?.bind fun child => child.at? path

theorem at?_cons {a child : Activity} {index : Nat} (h : a.children[index]? = some child) (path : List Nat) :
    a.at? (index :: path) = child.at? path := by
  rw [at?, h]
  rfl

theorem mem_elements_of_at? {a c : Activity} {path : List Nat} {e : Element} (h : a.at? path = some c)
    (he : e ∈ c.elements) : e ∈ a.elements := by
  induction path generalizing a with
  | nil =>
      cases h
      exact he
  | cons index path ih =>
      obtain ⟨child, hchild, hrest⟩ := Option.bind_eq_some_iff.mp h
      exact mem_elements_of_mem_children (List.mem_of_getElem? hchild) (ih hrest)

/-- A part of an activity: itself, or what is declared in it under an index. -/
def part? (a : Activity) : Part → Option Element
  | .whole => some a.element
  | .variableAt index => a.vars[index]?.map (·.element)
  | .messageAt index => a.messages[index]?.map (·.element)

theorem mem_elements_of_part? {a : Activity} {part : Part} {e : Element} (h : a.part? part = some e) :
    e ∈ a.elements := by
  cases part with
  | whole =>
      cases h
      exact a.element_mem_elements
  | variableAt index =>
      obtain ⟨v, hv, rfl⟩ := Option.map_eq_some_iff.mp h
      exact variable_mem_elements (List.mem_of_getElem? hv)
  | messageAt index =>
      obtain ⟨m, hm, rfl⟩ := Option.map_eq_some_iff.mp h
      exact message_mem_elements (List.mem_of_getElem? hm)

mutual

/-- The containers of an activity are reached from it, each at the place that is noted with it. -/
theorem exists_at?_of_mem_containersAt (place : Place) : (a : Activity) → ∀ c ∈ containersAt place a,
    ∃ path, c.1 = place.below path ∧ a.at? path = some c.2
  | .leaf e => by simp [containersAt]
  | .container e activities vars messages => by
      intro c hc
      rw [containersAt] at hc
      rcases List.mem_cons.mp hc with rfl | hbelow
      · exact ⟨[], by simp, rfl⟩
      · obtain ⟨index, child, path, hchild, hplace, hat⟩ :=
          exists_at?_of_mem_containersAtIn place 0 activities c hbelow
        refine ⟨index :: path, ?_, ?_⟩
        · rw [hplace, Nat.zero_add, Place.child_below]
        · rwa [at?_cons hchild]

theorem exists_at?_of_mem_containersAtIn (place : Place) (start : Nat) : (activities : List Activity) →
    ∀ c ∈ containersAtIn place start activities,
      ∃ index child path, activities[index]? = some child ∧ c.1 = (place.child (start + index)).below path ∧
        child.at? path = some c.2
  | [] => by simp [containersAtIn]
  | a :: rest => by
      intro c hc
      rw [containersAtIn, List.mem_append] at hc
      rcases hc with hhere | hrest
      · obtain ⟨path, hplace, hat⟩ := exists_at?_of_mem_containersAt (place.child start) a c hhere
        exact ⟨0, a, path, rfl, hplace, hat⟩
      · obtain ⟨index, child, path, hchild, hplace, hat⟩ :=
          exists_at?_of_mem_containersAtIn place (start + 1) rest c hrest
        refine ⟨index + 1, child, path, hchild, ?_, hat⟩
        rw [hplace, Nat.add_assoc, Nat.add_comm 1]

end

end Activity

namespace Workflow

/-- All elements of a workflow that a snippet can be rendered for. -/
def elements (flow : Workflow) : List Element := flow.root.elements

/-- The element that stands at a place of a workflow. -/
def elementAt? (flow : Workflow) (place : Place) : Option Element :=
  if place.origin = 0 then (flow.root.at? place.path).bind (·.part? place.part) else none

theorem elementAt?_below (flow : Workflow) (path : List Nat) (part : Part) :
    flow.elementAt? { Place.workflow.below path with part := part } = (flow.root.at? path).bind (·.part? part) := rfl

theorem mem_elements_of_elementAt? {flow : Workflow} {place : Place} {e : Element}
    (h : flow.elementAt? place = some e) : e ∈ flow.elements := by
  unfold elementAt? at h
  split at h
  · obtain ⟨a, hat, hpart⟩ := Option.bind_eq_some_iff.mp h
    exact Activity.mem_elements_of_at? hat (Activity.mem_elements_of_part? hpart)
  · cases h

/-- What is to be rendered is an element of the workflow, and the place noted with it is where that stands. -/
def Has (flow : Workflow) (item : Item) : Prop :=
  ∃ e, item.subject.element? = some e ∧ flow.elementAt? item.place = some e

theorem has_itself (flow : Workflow) : flow.Has (.ofWorkflow flow) := ⟨flow.element, rfl, rfl⟩

/-- A part of an activity stands at the place of the activity with that part. -/
theorem elementAt?_of_part? {flow : Workflow} {path : List Nat} {a : Activity} {part : Part} {e : Element}
    (hat : flow.root.at? path = some a) (hpart : a.part? part = some e) :
    flow.elementAt? { Place.workflow.below path with part := part } = some e := by
  rw [elementAt?_below, hat]
  exact hpart

theorem has_activity {flow : Workflow} {path : List Nat} {a : Activity} (h : flow.root.at? path = some a) :
    flow.Has (.ofActivity (Place.workflow.below path) a) := by
  have hwhole : a.part? .whole = some a.element := rfl
  exact ⟨a.element, rfl, elementAt?_of_part? h hwhole⟩

theorem has_of_mem_variableItems {flow : Workflow} {item : Item} (h : item ∈ flow.variableItems) : flow.Has item := by
  obtain ⟨⟨place, c⟩, hc, hitem⟩ := List.mem_flatMap.mp h
  obtain ⟨⟨v, index⟩, hv, rfl⟩ := List.mem_map.mp hitem
  obtain ⟨path, rfl, hat⟩ := Activity.exists_at?_of_mem_containersAt .workflow flow.root _ hc
  have hvar : c.vars[index]? = some v := (List.mk_mem_zipIdx_iff_getElem? ..).mp hv
  exact ⟨v.element, rfl, elementAt?_of_part? hat (by simp [Activity.part?, hvar])⟩

theorem has_of_mem_messageItems {flow : Workflow} {item : Item} (h : item ∈ flow.messageItems) : flow.Has item := by
  obtain ⟨⟨place, c⟩, hc, hitem⟩ := List.mem_flatMap.mp h
  obtain ⟨⟨m, index⟩, hm, rfl⟩ := List.mem_map.mp hitem
  obtain ⟨path, rfl, hat⟩ := Activity.exists_at?_of_mem_containersAt .workflow flow.root _ hc
  have hmessage : c.messages[index]? = some m := (List.mk_mem_zipIdx_iff_getElem? ..).mp hm
  exact ⟨m.element, rfl, elementAt?_of_part? hat (by simp [Activity.part?, hmessage])⟩

end Workflow

theorem Properties.get?_set (properties : Properties) (name : String) (value : Datum) :
    (properties.set name value).get? name = some value := by
  induction properties with
  | nil => simp [set, get?]
  | cons first rest ih =>
      obtain ⟨key, old⟩ := first
      rw [set]
      split
      · next hkey =>
          rw [beq_iff_eq] at hkey
          simp [get?, hkey]
      · next hkey =>
          have hother : (name == key) = false := by
            rw [beq_eq_false_iff_ne]
            intro heq
            exact hkey (by simp [heq])
          rw [get?, List.lookup_cons, hother]
          exact ih

/-- An element carries the stamp that was put on it last. -/
theorem Element.uniqueId?_stamp (e : Element) (id : Int) : (e.stamp id).uniqueId? = some (.int id) := by
  rw [uniqueId?, stamp, Properties.get?_set]

namespace Stamps

theorem onActivities_getElem? (s : Stamps) (place : Place) (start : Nat) (activities : List Activity) (index : Nat) :
    (s.onActivities place start activities)[index]? =
      activities[index]?.map (s.onActivity (place.child (start + index))) := by
  induction activities generalizing start index with
  | nil => rfl
  | cons a rest ih =>
      rw [onActivities]
      cases index with
      | zero => rfl
      | succ index =>
          rw [List.getElem?_cons_succ, List.getElem?_cons_succ, ih, Nat.add_assoc, Nat.add_comm 1]

theorem children_onActivity (s : Stamps) (place : Place) (a : Activity) :
    (s.onActivity place a).children = s.onActivities place 0 a.children := by
  cases a <;> rfl

/-- What is reached in a stamped tree is what is reached in the tree, with its stamps. -/
theorem at?_onActivity (s : Stamps) (place : Place) (a : Activity) (path : List Nat) :
    (s.onActivity place a).at? path = (a.at? path).map (s.onActivity (place.below path)) := by
  induction path generalizing place a with
  | nil => simp [Activity.at?]
  | cons index path ih =>
      rw [Activity.at?, Activity.at?, children_onActivity, onActivities_getElem?, Nat.zero_add]
      cases a.children[index]? with
      | none => rfl
      | some child => simp [ih, Place.child_below]

theorem part?_onActivity (s : Stamps) {place : Place} (hplace : place.part = .whole) (a : Activity) (part : Part) :
    (s.onActivity place a).part? part = (a.part? part).map (s.on { place with part := part }) := by
  have hwhole : { place with part := .whole } = place := by rw [← hplace]
  cases a with
  | leaf e =>
      cases part with
      | whole => simp [Activity.part?, onActivity, Activity.element, hwhole]
      | variableAt index => rfl
      | messageAt index => rfl
  | container e activities vars messages =>
      cases part with
      | whole => simp [Activity.part?, onActivity, Activity.element, hwhole]
      | variableAt index =>
          simp only [Activity.part?, onActivity, Activity.vars, onVariables, List.getElem?_map, List.getElem?_zipIdx,
            Nat.zero_add]
          cases vars[index]? <;> rfl
      | messageAt index =>
          simp only [Activity.part?, onActivity, Activity.messages, onMessages, List.getElem?_map,
            List.getElem?_zipIdx, Nat.zero_add]
          cases messages[index]? <;> rfl

/-- The element at a place of a stamped workflow is the one there with its stamp. -/
theorem elementAt?_onWorkflow (s : Stamps) (flow : Workflow) (place : Place) :
    (s.onWorkflow flow).elementAt? place = (flow.elementAt? place).map (s.on place) := by
  have hroot : (s.onWorkflow flow).root = s.onActivity .workflow flow.root := rfl
  unfold Workflow.elementAt?
  split
  · next horigin =>
      have hplace : { Place.workflow.below place.path with part := place.part } = place := by
        obtain ⟨origin, path, part⟩ := place
        subst horigin
        rfl
      rw [hroot, at?_onActivity]
      cases flow.root.at? place.path with
      | none => rfl
      | some a =>
          rw [Option.map_some, Option.bind_some, Option.bind_some, part?_onActivity s rfl, hplace]
  · rfl

end Stamps

end WorkflowForge
