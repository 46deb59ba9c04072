import WorkflowForge.Proofs.Assembly.PreOrder
import WorkflowForge.Proofs.Data.Accepted
import WorkflowForge.Proofs.Data.Lookup
import WorkflowForge.Proofs.Json.Places
import WorkflowForge.Workflow.Check

/-!
The shape of a workflow that was read from JSON. The containers among the elements of an array are checked before the
other elements, but the tree that comes out mirrors the input: under each container stands one activity for each element
of its array, in the same order and with the name and the type given there, and it is a container exactly if the
element has the key `activities`. So the containers of the workflow are listed, and assembled, in the order in which
their objects begin in the input.
-/

namespace WorkflowForge

namespace Json

/-- The elements of the array under `activities`, none where there is no such array. -/
def listed (v : Json) : List Json :=
  match v.field? "activities" with
  | some (.array items) => items
  | _ => []

/-- What is reached from an input by going down, each time to the listed element of an index. -/
def listedAt? : List Nat → Json → Option Json
  | [], v => some v
  | index :: path, v => v.listed[index]?.bind (listedAt? path)

end Json

/-- An element with the name and the type that an input states; where no type is stated it is empty. -/
structure Element.StatedBy (e : Element) (v : Json) : Prop where
  name : v.field? "name" = some (.string e.name)
  type : (v.field? "type").getD (.string "") = .string e.type

/-! ### Checks of what came from JSON -/

namespace Datum

theorem lookup_ofFields (fields : Fields) (name : String) :
    lookup (ofFields fields) name = (Fields.get? fields name).map ofJson := by
  induction fields with
  | nil => rfl
  | cons field rest ih =>
      obtain ⟨key, v⟩ := field
      rw [Fields.get?_cons, ofFields, lookup_cons_text, ih]
      split <;> rfl

end Datum

theorem Checked.text_ofJson {v : Json} {s : String} : text (.ofJson v) = .ok s ↔ v = .string s := by
  cases v <;> simp [text, Datum.ofJson, fail]

theorem Checked.string_of_nonEmptyText {v : Json} {s : String} (h : nonEmptyText (.ofJson v) = .ok s) :
    v = .string s := by
  unfold nonEmptyText at h
  split at h
  · next t ht =>
      split at h
      · cases h
      · cases h
        exact text_ofJson.mp ht
  · cases h

open Checked

theorem Element.statedBy_of_check {fields : Fields} {e : Element} (h : Element.check (Datum.ofFields fields) = .ok e) :
    e.StatedBy (.object fields) := by
  obtain ⟨⟨name, type, key, description, properties⟩, hparts, he⟩ := bind_eq_ok.mp h
  cases he
  obtain ⟨hname, hparts⟩ := both_eq_ok.mp hparts
  obtain ⟨htype, _⟩ := both_eq_ok.mp hparts
  obtain ⟨given, hgiven, hname⟩ := required_eq_ok.mp hname
  rw [Datum.lookup_ofFields] at hgiven
  obtain ⟨v, hv, rfl⟩ := Option.map_eq_some_iff.mp hgiven
  refine ⟨?_, ?_⟩
  · rw [Json.field?, hv, string_of_nonEmptyText hname]
  · rw [field_eq_ok, Datum.lookup_ofFields] at htype
    rw [Json.field?]
    rcases htype with ⟨hmissing, rfl⟩ | ⟨given, hgiven, htype⟩
    · rw [Option.map_eq_none_iff.mp hmissing, Option.getD_none]
    · obtain ⟨v, hv, rfl⟩ := Option.map_eq_some_iff.mp hgiven
      rw [hv, text_ofJson.mp htype, Option.getD_some]

namespace Activity

/-- An activity that has the shape of an input: a leaf where the input has no key `activities`, and otherwise a container
with one activity in the shape of each element of the array there. -/
inductive Mirrors : Json → Activity → Prop
  | leaf {v : Json} {e : Element} (hstated : e.StatedBy v) (hkey : v.field? "activities" = none) : Mirrors v (.leaf e)
  | container {v : Json} {e : Element} {items : List Json} {activities : List Activity} {vars : List Variable}
      {messages : List Message} (hstated : e.StatedBy v) (hkey : v.field? "activities" = some (.array items))
      (hitems : List.Forall₂ Mirrors items activities) : Mirrors v (.container e activities vars messages)

/-- What an element of an array is before the leaves are checked: a container in its shape, or the element as it is
where it has no key `activities`. -/
inductive Classified : Json → Activity ⊕ Datum → Prop
  | container {v : Json} {a : Activity} (h : Mirrors v a) : Classified v (.inl a)
  | other {v : Json} (hkey : v.field? "activities" = none) : Classified v (.inr (.ofJson v))

theorem mirrors_of_checkLeaf {v : Json} {a : Activity} (hkey : v.field? "activities" = none)
    (h : checkLeaf (.ofJson v) = .ok a) : Mirrors v a := by
  obtain ⟨entries, hv, h⟩ := structured_eq_ok.mp h
  obtain ⟨e, he, rfl⟩ := map_eq_ok.mp h
  cases v with
  | object fields =>
      cases hv
      exact .leaf (Element.statedBy_of_check he) hkey
  | _ => cases hv

theorem mirrors_of_checkLeaves {items : List Json} {children : List (Activity ⊕ Datum)} {activities : List Activity}
    {i : Int} (hclassified : List.Forall₂ Classified items children) (h : checkLeaves i children = .ok activities) :
    List.Forall₂ Mirrors items activities := by
  induction hclassified generalizing i activities with
  | nil =>
      cases h
      exact .nil
  | @cons v child items children hchild _ ih =>
      cases hchild with
      | container hmirrors =>
          obtain ⟨rest, hrest, rfl⟩ := map_eq_ok.mp h
          exact .cons hmirrors (ih hrest)
      | other hkey =>
          obtain ⟨⟨a, rest⟩, hboth, rfl⟩ := map_eq_ok.mp h
          obtain ⟨hleaf, hrest⟩ := both_eq_ok.mp hboth
          exact .cons (mirrors_of_checkLeaf hkey (under_eq_ok.mp hleaf)) (ih hrest)

theorem mirrors_of_checkContainer {fields : Fields} {v : Json} {a : Activity}
    (hkey : Fields.get? fields "activities" = some v)
    (hlist : ∀ activities, checkList (.ofJson v) = .ok activities →
      ∃ items, v = .array items ∧ List.Forall₂ Mirrors items activities)
    (h : checkContainer (Datum.ofFields fields) (checkList (.ofJson v)) = .ok a) : Mirrors (.object fields) a := by
  obtain ⟨⟨e, activities, vars, messages⟩, hparts, ha⟩ := bind_eq_ok.mp h
  cases ha
  obtain ⟨he, hparts⟩ := both_eq_ok.mp hparts
  obtain ⟨hactivities, _⟩ := both_eq_ok.mp hparts
  obtain ⟨items, rfl, hitems⟩ := hlist activities (under_eq_ok.mp hactivities)
  exact .container (Element.statedBy_of_check he) hkey hitems

theorem activitiesIn_ofFields (fields : Fields) :
    activitiesIn (Datum.ofFields fields) =
      (Fields.get? fields "activities").map fun v => checkList (.ofJson v) := by
  induction fields with
  | nil => rfl
  | cons field rest ih =>
      obtain ⟨key, v⟩ := field
      rw [Fields.get?_cons, Datum.ofFields, activitiesIn]
      by_cases h : "activities" = key
      · simp [h]
      · simp only [beq_iff_eq, h, Ne.symm h, if_false]
        exact ih

mutual

theorem mirrors_of_checkList : (v : Json) → ∀ {activities}, checkList (.ofJson v) = .ok activities →
    ∃ items, v = .array items ∧ List.Forall₂ Mirrors items activities
  | .array items, activities, h => by
      rw [Datum.ofJson, checkList] at h
      split at h
      · next children hchildren =>
          exact ⟨items, rfl, mirrors_of_checkLeaves (classified_of_classify items hchildren) h⟩
      · cases h
  | .null, _, h | .bool _, _, h | .int _, _, h | .float _, _, h | .string _, _, h | .object _, _, h => by cases h

theorem classified_of_classify : (items : List Json) → ∀ {children}, classify (Datum.ofItems items) = .ok children →
    List.Forall₂ Classified items children
  | [], _, h => by
      cases h
      exact .nil
  | v :: rest, _, h => by
      rw [Datum.ofItems, classify] at h
      obtain ⟨first, hfirst, h⟩ := bind_eq_ok.mp h
      obtain ⟨others, hothers, h⟩ := bind_eq_ok.mp h
      cases h
      exact .cons (classified_of_classifyOne v hfirst) (classified_of_classify rest hothers)

theorem classified_of_classifyOne : (v : Json) → ∀ {child}, classifyOne (.ofJson v) = .ok child → Classified v child
  | .object fields, _, h => by
      rw [Datum.ofJson, classifyOne, activitiesIn_ofFields] at h
      cases hkey : Fields.get? fields "activities" with
      | none =>
          rw [hkey] at h
          cases h
          exact .other hkey
      | some v =>
          rw [hkey] at h
          obtain ⟨a, ha, rfl⟩ := map_eq_ok.mp h
          exact .container (mirrors_of_checkContainer hkey (fun _ hlist => mirrors_of_field fields hkey hlist) ha)
  | .null, _, h | .bool _, _, h | .int _, _, h | .float _, _, h | .string _, _, h | .array _, _, h => by
      cases h
      exact .other rfl

theorem mirrors_of_field : (fields : Fields) → ∀ {v activities}, Fields.get? fields "activities" = some v →
    checkList (.ofJson v) = .ok activities → ∃ items, v = .array items ∧ List.Forall₂ Mirrors items activities
  | [], _, _, hkey, _ => by cases hkey
  | (key, first) :: rest, _, _, hkey, h => by
      rw [Fields.get?_cons] at hkey
      split at hkey
      · cases hkey
        exact mirrors_of_checkList first h
      · exact mirrors_of_field rest hkey h

end

theorem Mirrors.statedBy {v : Json} {a : Activity} (h : Mirrors v a) : a.element.StatedBy v := by
  cases h with
  | leaf hstated _ => exact hstated
  | container hstated _ _ => exact hstated

theorem Mirrors.isContainer_iff {v : Json} {a : Activity} (h : Mirrors v a) :
    a.isContainer = true ↔ (v.field? "activities").isSome = true := by
  cases h with
  | leaf _ hkey => simp [isContainer, hkey]
  | container _ hkey _ => simp [isContainer, hkey]

theorem Mirrors.children {v : Json} {a : Activity} (h : Mirrors v a) : List.Forall₂ Mirrors v.listed a.children := by
  cases h with
  | leaf _ hkey => simp [Json.listed, hkey, Activity.children]
  | container _ hkey hitems => simpa [Json.listed, hkey, Activity.children] using hitems

theorem rel_getElem? {R : Json → Activity → Prop} {items : List Json} {activities : List Activity}
    (h : List.Forall₂ R items activities) (index : Nat) : Option.Rel R items[index]? activities[index]? := by
  induction h generalizing index with
  | nil => exact .none
  | cons hfirst _ ih =>
      cases index with
      | zero => exact .some hfirst
      | succ index => exact ih index

theorem rel_bind {R S : Json → Activity → Prop} {x : Option Json} {y : Option Activity} (h : Option.Rel R x y)
    {f : Json → Option Json} {g : Activity → Option Activity} (hfg : ∀ v a, R v a → Option.Rel S (f v) (g a)) :
    Option.Rel S (x.bind f) (y.bind g) := by
  cases h with
  | none => exact .none
  | some hmirrors => exact hfg _ _ hmirrors

theorem rel_mono {R S : Json → Activity → Prop} {x : Option Json} {y : Option Activity} (h : Option.Rel R x y)
    (hRS : ∀ v a, R v a → S v a) : Option.Rel S x y := by
  cases h with
  | none => exact .none
  | some hmirrors => exact .some (hRS _ _ hmirrors)

/-- Where the children mirror what is listed, so does all that is reached below. -/
theorem rel_at?_of_children {v : Json} {a : Activity} (h : List.Forall₂ Mirrors v.listed a.children) (index : Nat)
    (path : List Nat) : Option.Rel Mirrors (v.listedAt? (index :: path)) (a.at? (index :: path)) := by
  induction path generalizing v a index with
  | nil =>
      apply rel_bind (rel_getElem? h index)
      intro item child hmirrors
      exact .some hmirrors
  | cons next path ih =>
      apply rel_bind (rel_getElem? h index)
      intro item child hmirrors
      exact ih hmirrors.children next

end Activity

namespace Workflow

theorem root_of_ofDatum {fields : Fields} {flow : Workflow} (h : ofDatum (.ofJson (.object fields)) = .ok flow) :
    flow.element.StatedBy (.object fields) ∧
      List.Forall₂ Activity.Mirrors (Json.object fields).listed flow.activities := by
  obtain ⟨⟨e, activities, vars, messages, channels⟩, hparts, hflow⟩ := bind_eq_ok.mp h
  cases hflow
  obtain ⟨he, hparts⟩ := both_eq_ok.mp hparts
  obtain ⟨hactivities, _⟩ := both_eq_ok.mp hparts
  refine ⟨Element.statedBy_of_check he, ?_⟩
  have hlist := under_eq_ok.mp hactivities
  rw [Activity.checkActivities, Activity.activitiesIn_ofFields] at hlist
  cases hkey : Fields.get? fields "activities" with
  | none =>
      rw [hkey] at hlist
      cases hlist
      simp [Json.listed, Json.field?, hkey]
  | some v =>
      rw [hkey] at hlist
      obtain ⟨items, rfl, hitems⟩ := Activity.mirrors_of_checkList v hlist
      simpa [Json.listed, Json.field?, hkey] using hitems

/-- The activity at a path agrees with the input there: it has the name and the type that are stated, and it is a
container exactly if it is the whole workflow or the input has the key `activities`. -/
def AgreesAt (path : List Nat) (v : Json) (a : Activity) : Prop :=
  a.element.StatedBy v ∧ (a.isContainer = true ↔ path = [] ∨ (v.field? "activities").isSome = true)

theorem rel_at?_of_ofDatum {fields : Fields} {flow : Workflow} (h : ofDatum (.ofJson (.object fields)) = .ok flow)
    (path : List Nat) : Option.Rel (AgreesAt path) ((Json.object fields).listedAt? path) (flow.root.at? path) := by
  obtain ⟨hroot, hchildren⟩ := root_of_ofDatum h
  cases path with
  | nil => exact .some ⟨hroot, by simp [root, Activity.isContainer]⟩
  | cons index path =>
      have hroot : List.Forall₂ Activity.Mirrors (Json.object fields).listed flow.root.children := hchildren
      apply Activity.rel_mono (Activity.rel_at?_of_children hroot index path)
      intro v a hmirrors
      exact ⟨hmirrors.statedBy, by simpa using hmirrors.isContainer_iff⟩

/-- The containers of a workflow are listed in the order of their paths. -/
theorem containers_at (flow : Workflow) :
    List.Forall₂ (fun path c => flow.root.at? path = some c) flow.containerPaths flow.containers := by
  rw [containers, ← Activity.map_containersAt .workflow, containerPaths, List.forall₂_map_left_iff,
    List.forall₂_map_right_iff, List.forall₂_same]
  intro c hc
  exact (at?_of_mem_containersAt hc).2

theorem mem_containerPaths_iff {fields : Fields} {flow : Workflow} (h : ofDatum (.ofJson (.object fields)) = .ok flow)
    (path : List Nat) :
    path ∈ flow.containerPaths ↔ ∃ v, (Json.object fields).listedAt? path = some v ∧
      (path = [] ∨ (v.field? "activities").isSome = true) := by
  rw [mem_containerPaths]
  have hrel := rel_at?_of_ofDatum h path
  generalize (Json.object fields).listedAt? path = x at hrel ⊢
  generalize flow.root.at? path = y at hrel ⊢
  cases hrel with
  | none => simp
  | some hagrees => simpa using hagrees.2

open Build in
/-- A workflow that was read from a JSON object has the shape of the object: at each path there is an activity exactly if
there is an element there, and the two agree. Its containers are listed in the order of their paths, so each once and a
container before those in it and these before the ones behind it, and they are where the element has the key
`activities`, and the workflow itself. Whatever handlers there are, to assemble the workflow is to walk through its
activities in this order. The containers that are converted come in this order, and it is all of them if none is
skipped. -/
theorem shape_is_kept_and_walked (fields : Fields) (flow : Workflow)
    (h : ofDatum (.ofJson (.object fields)) = .ok flow) :
    (∀ path, Option.Rel (AgreesAt path) ((Json.object fields).listedAt? path) (flow.root.at? path)) ∧
    (List.Forall₂ (fun path c => flow.root.at? path = some c) flow.containerPaths flow.containers ∧
      flow.containerPaths.Pairwise (· < ·) ∧
      ∀ path, path ∈ flow.containerPaths ↔ ∃ v, (Json.object fields).listedAt? path = some v ∧
        (path = [] ∨ (v.field? "activities").isSome = true)) ∧
    ∀ (w : Workshop) (r : Registry) (parent : Scope),
      assembleWorkflow w r flow parent = (do return ((← walk w r flow parent).scopeAt? []).isSome) ∧
      ∀ (b c : Bench) (converted : Conversions), (walk w r flow parent).run b = (.ok converted, c) →
        converted.paths.Sublist flow.containerPaths ∧
        (converted.NoneSkipped → converted.paths = flow.containerPaths) := by
  refine ⟨rel_at?_of_ofDatum h, ⟨containers_at flow, containerPaths_pairwise flow, mem_containerPaths_iff h⟩,
    fun w r parent => ⟨assembleWorkflow_eq_walk flow parent, fun b c converted hrun => ?_⟩⟩
  have hcovers := covers_of_walk flow parent hrun
  exact ⟨hcovers.sublist, hcovers.all⟩

/-- An activity, a container that holds an empty container, and another activity. -/
def layeredInput : Fields :=
  [("name", .string "w"), ("activities", .array [
    .object [("name", .string "a"), ("type", .string "Send")],
    .object [("activities", .array [.object [("name", .string "c"), ("activities", .array [])]]),
      ("name", .string "b"), ("unknown", .int 1)],
    .object [("name", .string "d")]])]

def layeredFlow : Workflow where
  element := ⟨"w", "", "", none, []⟩
  activities :=
    [.leaf ⟨"a", "Send", "", none, []⟩,
      .container ⟨"b", "", "", none, []⟩ [.container ⟨"c", "", "", none, []⟩ [] [] []] [] [],
      .leaf ⟨"d", "", "", none, []⟩]
  vars := []
  messages := []
  channels := []

open Build in
theorem shape_is_kept_and_walked_layered :
    ofDatum (.ofJson (.object layeredInput)) = .ok layeredFlow ∧
    Option.Rel (AgreesAt [1, 0]) (some (.object [("name", .string "c"), ("activities", .array [])]))
      (some (.container ⟨"c", "", "", none, []⟩ [] [] [])) ∧
    ∀ (w : Workshop) (r : Registry) (parent : Scope) (b c : Bench) (converted : Conversions),
      (walk w r layeredFlow parent).run b = (.ok converted, c) → converted.NoneSkipped →
        converted.paths = [[], [1], [1, 0]] := by
  have hok : ofDatum (.ofJson (.object layeredInput)) = .ok layeredFlow := by rfl
  obtain ⟨hshape, _, hwalk⟩ := shape_is_kept_and_walked layeredInput layeredFlow hok
  refine ⟨hok, hshape [1, 0], fun w r parent b c converted hrun hnone => ?_⟩
  exact ((hwalk w r parent).2 b c converted hrun).2 hnone

end Workflow

end WorkflowForge
