import WorkflowForge.Document.Binding
import WorkflowForge.Proofs.Json.Places

/-!
The collections that binding comes to, and what it makes of each. Which part a place plays for binding is read off its
names alone: below a collection come bodies, below a body its collections, its cases, its two branches and its links,
and the rest is left alone. A collection that is come to is bound as a whole: each entry is linked to the one before
it, after everything below the entries was bound.
-/

namespace WorkflowForge

namespace Fields

/-- An entry stands right behind the one of a name, and is the first of its own name. -/
def Follows (entries : Fields) (previous name : String) (body : Json) : Prop :=
  ∃ front value back, entries = front ++ (previous, value) :: (name, body) :: back ∧
    name ∉ names front ∧ name ≠ previous

theorem get?_map (f : String → Json → Json) (fields : Fields) (name : String) :
    get? (fields.map fun field => (field.1, f field.1 field.2)) name = (get? fields name).map (f name) := by
  induction fields with
  | nil => rfl
  | cons field rest ih =>
      obtain ⟨key, v⟩ := field
      simp only [List.map_cons, get?_cons, ih]
      split
      · next h => simp [h]
      · rfl

theorem names_map (f : String → Json → Json) (fields : Fields) :
    names (fields.map fun field => (field.1, f field.1 field.2)) = names fields := by
  simp [names]

/-- The first entry of a name is the first of all, or it stands right behind another. -/
theorem head_or_follows {entries : Fields} {name : String} {body : Json} (h : Fields.get? entries name = some body) :
    entries.head? = some (name, body) ∨ ∃ previous, Follows entries previous name body := by
  induction entries with
  | nil => cases h
  | cons entry rest ih =>
      obtain ⟨key, v⟩ := entry
      rw [get?_cons] at h
      split at h
      · next heq =>
          cases h
          exact .inl (by simp [heq])
      · next hne =>
          right
          rcases ih h with hhead | ⟨previous, front, value, back, rfl, hfront, hprevious⟩
          · cases rest with
            | nil => cases hhead
            | cons second back =>
                cases hhead
                exact ⟨key, [], v, back, rfl, by simp, hne⟩
          · exact ⟨previous, (key, v) :: front, value, back, rfl, by simp [hne, hfront], hprevious⟩

end Fields

namespace Binding

/-- The body of an entry with its links, where there is an entry before it. -/
def linkTo : Option String → Json → Json
  | some previous, .object body => .object (linked previous body)
  | _, v => v

theorem chain_cons (previous : Option String) (name : String) (body : Json) (rest : Fields) :
    chain previous ((name, body) :: rest) = (name, linkTo previous body) :: chain (some name) rest := by
  cases previous with
  | none => rfl
  | some p => cases body <;> rfl

@[simp] theorem names_chain (previous : Option String) (entries : Fields) :
    Fields.names (chain previous entries) = Fields.names entries := by
  induction entries generalizing previous with
  | nil => cases previous <;> rfl
  | cons entry rest ih =>
      obtain ⟨name, body⟩ := entry
      rw [chain_cons, Fields.names_cons, Fields.names_cons, ih]

theorem chain_append (previous : Option String) (front : Fields) (name : String) (body : Json) (rest : Fields) :
    chain previous (front ++ (name, body) :: rest) =
      chain previous (front ++ [(name, body)]) ++ chain (some name) rest := by
  induction front generalizing previous with
  | nil => simp [chain_cons, chain]
  | cons entry more ih =>
      obtain ⟨key, v⟩ := entry
      simp only [List.cons_append, chain_cons, ih]

theorem get?_chain_of_follows {entries : Fields} {previous name : String} {body : Json}
    (h : Fields.Follows entries previous name body) :
    Fields.get? (chain none entries) name = some (linkTo (some previous) body) := by
  obtain ⟨front, value, back, rfl, hfront, hne⟩ := h
  rw [chain_append, Fields.get?_append_of_not_mem, chain_cons, Fields.get?_cons, if_pos rfl]
  simp [hfront, hne]

theorem get?_chain_of_head {entries : Fields} {name : String} {body : Json}
    (h : entries.head? = some (name, body)) : Fields.get? (chain none entries) name = some body := by
  cases entries with
  | nil => cases h
  | cons entry rest =>
      cases h
      rw [chain_cons, Fields.get?_cons, if_pos rfl]
      rfl

/-- What becomes of a field of a body, by its name. -/
def bindPart (key : String) (v : Json) : Json :=
  if key == "actions" then bindCollection v
  else if key == "cases" then bindCases v
  else if key == "default" || key == "else" then bindBranch v
  else v

theorem below_eq_map (entries : Fields) : below entries = entries.map fun entry => (entry.1, bindBody entry.2) := by
  induction entries with
  | nil => rw [below, List.map_nil]
  | cons entry rest ih => rw [below, ih, List.map_cons]

theorem bindParts_eq_map (fields : Fields) :
    bindParts fields = fields.map fun field => (field.1, bindPart field.1 field.2) := by
  induction fields with
  | nil => rw [bindParts, List.map_nil]
  | cons field rest ih => rw [bindParts, ih, List.map_cons, bindPart]

theorem bindBranchFields_eq_map (fields : Fields) :
    bindBranchFields fields =
      fields.map fun field => (field.1, if field.1 == "actions" then bindCollection field.2 else field.2) := by
  induction fields with
  | nil => rw [bindBranchFields, List.map_nil]
  | cons field rest ih => rw [bindBranchFields, ih, List.map_cons]

theorem bindCaseFields_eq_map (fields : Fields) :
    bindCaseFields fields = fields.map fun field => (field.1, bindBranch field.2) := by
  induction fields with
  | nil => rw [bindCaseFields, List.map_nil]
  | cons field rest ih => rw [bindCaseFields, ih, List.map_cons]

/-- The part that a place plays for binding. -/
inductive Role where
  | collection
  | body
  | cases
  | branch
  | links
  | other
deriving DecidableEq, Repr

namespace Role

/-- The part of a field of a value with a part. -/
def next : Role → String → Role
  | .collection, _ => .body
  | .body, key =>
    if key == "actions" then .collection
    else if key == "cases" then .cases
    else if key == "default" || key == "else" then .branch
    else if key == "runAfter" then .links
    else .other
  | .cases, _ => .branch
  | .branch, key => if key == "actions" then .collection else .other
  | .links, _ => .other
  | .other, _ => .other

def along (r : Role) (place : List String) : Role := place.foldl next r

@[simp] theorem along_nil (r : Role) : r.along [] = r := rfl

@[simp] theorem along_cons (r : Role) (name : String) (rest : List String) :
    r.along (name :: rest) = (r.next name).along rest := rfl

theorem along_append (r : Role) (first second : List String) :
    r.along (first ++ second) = (r.along first).along second := List.foldl_append

theorem along_other (place : List String) : other.along place = other := by
  induction place with
  | nil => rfl
  | cons name rest ih => exact ih

theorem along_links_ne_collection (place : List String) : links.along place ≠ collection := by
  cases place with
  | nil => simp
  | cons name rest =>
      rw [along_cons, next, along_other]
      simp

/-- Below a collection stands a body, and no collection stands in a body's links. -/
theorem key_of_along_body {place : List String} (h : body.along place = collection) :
    ∃ key more, place = key :: more ∧ key ≠ "runAfter" := by
  cases place with
  | nil => cases h
  | cons key more =>
      refine ⟨key, more, rfl, ?_⟩
      rintro rfl
      exact along_links_ne_collection more h

/-- What binding makes of a value with a part, the link to an entry before it left out. -/
def bound : Role → Json → Json
  | .collection => bindCollection
  | .body => bindBody
  | .cases => bindCases
  | .branch => bindBranch
  | .links => id
  | .other => id

theorem bound_next_body (key : String) : (body.next key).bound = bindPart key := by
  funext v
  unfold next bindPart
  dsimp only
  split
  · rfl
  · split
    · rfl
    · split
      · rfl
      · split <;> rfl

/-- Apart from collections, binding goes on field by field. -/
theorem field?_bound {r : Role} (hr : r ≠ collection) (v : Json) (key : String) :
    (r.bound v).field? key = (v.field? key).map (r.next key).bound := by
  cases r with
  | collection => exact absurd rfl hr
  | body =>
      cases v with
      | object fields =>
          rw [bound_next_body]
          change Fields.get? (bindParts fields) key = (Fields.get? fields key).map (bindPart key)
          rw [bindParts_eq_map, Fields.get?_map]
      | _ => rfl
  | cases =>
      cases v with
      | object fields =>
          change Fields.get? (bindCaseFields fields) key = (Fields.get? fields key).map bindBranch
          rw [bindCaseFields_eq_map]
          exact Fields.get?_map (fun _ => bindBranch) fields key
      | _ => rfl
  | branch =>
      cases v with
      | object fields =>
          change Fields.get? (bindBranchFields fields) key = (Fields.get? fields key).map (branch.next key).bound
          rw [bindBranchFields_eq_map]
          rw [Fields.get?_map (fun k v => if k == "actions" then bindCollection v else v)]
          congr 1
          funext v
          simp only [next]
          split <;> rfl
      | _ => rfl
  | links => exact Option.map_id'.symm
  | other => exact Option.map_id'.symm

end Role

@[simp] theorem names_bind (entries : Fields) : Fields.names (bind entries) = Fields.names entries := by
  rw [bind, names_chain, below_eq_map]
  exact Fields.names_map (fun _ => bindBody) entries

/-- An entry that stands behind another is linked to it. -/
theorem get?_bind_of_follows {entries : Fields} {previous name : String} {body : Json}
    (h : Fields.Follows entries previous name body) :
    Fields.get? (bind entries) name = some (linkTo (some previous) (bindBody body)) := by
  obtain ⟨front, value, back, rfl, hfront, hne⟩ := h
  refine get?_chain_of_follows ⟨below front, bindBody value, below back, ?_, ?_, hne⟩
  · simp [below_eq_map]
  · rw [below_eq_map, Fields.names_map (fun _ => bindBody)]
    exact hfront

/-- The first entry gets no link. -/
theorem get?_bind_of_head {entries : Fields} {name : String} {body : Json}
    (h : entries.head? = some (name, body)) : Fields.get? (bind entries) name = some (bindBody body) := by
  apply get?_chain_of_head
  rw [below_eq_map, List.head?_map, h]
  rfl

/-- Whether it is linked or not, an entry of a bound collection is its own body bound, the links apart. -/
theorem exists_get?_bind {entries : Fields} {name : String} {body : Json}
    (h : Fields.get? entries name = some body) :
    ∃ previous, Fields.get? (bind entries) name = some (linkTo previous (bindBody body)) := by
  rcases Fields.head_or_follows h with hhead | ⟨previous, hfollows⟩
  · exact ⟨none, by rw [get?_bind_of_head hhead]; rfl⟩
  · exact ⟨some previous, get?_bind_of_follows hfollows⟩

/-- Links change no field of a body but the one that holds them. -/
theorem field?_linkTo (previous : Option String) (v : Json) {key : String} (hkey : key ≠ "runAfter") :
    (linkTo previous v).field? key = v.field? key := by
  cases previous with
  | none => rfl
  | some p =>
      cases v with
      | object body => exact Fields.get?_set_of_ne body _ hkey
      | _ => rfl

theorem linksOf_bindParts (body : Fields) : linksOf (bindParts body) = linksOf body := by
  have hget : Fields.get? (bindParts body) "runAfter" = Fields.get? body "runAfter" := by
    rw [bindParts_eq_map, Fields.get?_map]
    exact Option.map_id'
  rw [linksOf, linksOf, hget]

@[simp] theorem names_bindParts (body : Fields) : Fields.names (bindParts body) = Fields.names body := by
  rw [bindParts_eq_map]
  exact Fields.names_map bindPart body

/-- A collection that binding comes to along the names of a place is bound as a whole. -/
theorem objectAt?_bound {r : Role} {place : List String} (hplace : r.along place = .collection) (v : Json) :
    (r.bound v).objectAt? place = (v.objectAt? place).map bind := by
  induction place generalizing r v with
  | nil =>
      cases hplace
      cases v <;> rfl
  | cons name rest ih =>
      rw [Json.objectAt?_cons, Json.objectAt?_cons]
      by_cases hr : r = .collection
      · subst hr
        obtain ⟨key, more, rfl, hkey⟩ := Role.key_of_along_body hplace
        cases v with
        | object entries =>
            change (Fields.get? (bind entries) name).bind _ = ((Fields.get? entries name).bind _).map bind
            cases hget : Fields.get? entries name with
            | none =>
                have hnone : Fields.get? (bind entries) name = none := by
                  rw [Fields.get?_eq_none_iff, names_bind, ← Fields.get?_eq_none_iff]
                  exact hget
                rw [hnone]
                rfl
            | some body =>
                obtain ⟨previous, hbound⟩ := exists_get?_bind hget
                rw [hbound, Option.bind_some, Option.bind_some, Json.objectAt?_cons, field?_linkTo _ _ hkey,
                  ← Json.objectAt?_cons]
                exact ih hplace body
        | _ => rfl
      · rw [Role.field?_bound hr]
        cases v.field? name with
        | none => rfl
        | some w => exact ih hplace w

/-- How a collection stands in the body of an action. -/
inductive Nesting : List String → Prop
  | actions : Nesting ["actions"]
  | case (name : String) : Nesting ["cases", name, "actions"]
  | default : Nesting ["default", "actions"]
  | otherwise : Nesting ["else", "actions"]

/-- The places of the collections that are bound with the one at the start: that one, and below an entry of such a
collection each object that is nested in its body as a collection. -/
inductive Visited (document : Json) (start : List String) : List String → Prop
  | start : Visited document start start
  | nested {place : List String} (name : String) {nesting : List String} (hplace : Visited document start place)
      (hnesting : Nesting nesting) (hobject : (document.objectAt? (place ++ name :: nesting)).isSome) :
      Visited document start (place ++ name :: nesting)

theorem Nesting.along {nesting : List String} (h : Nesting nesting) : Role.body.along nesting = .collection := by
  cases h <;> rfl

theorem actions_of_along_branch {place : List String} (h : Role.branch.along place = .collection) :
    ∃ rest, place = "actions" :: rest ∧ Role.collection.along rest = .collection := by
  cases place with
  | nil => cases h
  | cons key rest =>
      rw [Role.along_cons, Role.next] at h
      split at h
      · next hkey =>
          rw [beq_iff_eq] at hkey
          exact ⟨rest, by rw [hkey], h⟩
      · rw [Role.along_other] at h
        cases h

/-- The way from a collection to one below it begins with an entry and a nesting in the entry's body. -/
theorem nesting_of_along {name : String} {place : List String}
    (h : Role.collection.along (name :: place) = .collection) :
    ∃ nesting rest, place = nesting ++ rest ∧ Nesting nesting ∧ Role.collection.along rest = .collection := by
  cases place with
  | nil => cases h
  | cons key more =>
      change (Role.body.next key).along more = .collection at h
      simp only [Role.next, Bool.or_eq_true, beq_iff_eq] at h
      split at h
      · next hkey => exact ⟨["actions"], more, by rw [hkey]; rfl, .actions, h⟩
      · split at h
        · next hkey =>
            cases more with
            | nil => cases h
            | cons case_ back =>
                obtain ⟨rest, rfl, hrest⟩ := actions_of_along_branch h
                exact ⟨["cases", case_, "actions"], rest, by rw [hkey]; rfl, .case case_, hrest⟩
        · split at h
          · next hkey =>
              obtain ⟨rest, rfl, hrest⟩ := actions_of_along_branch h
              rcases hkey with rfl | rfl
              · exact ⟨["default", "actions"], rest, rfl, .default, hrest⟩
              · exact ⟨["else", "actions"], rest, rfl, .otherwise, hrest⟩
          · split at h
            · exact absurd h (Role.along_links_ne_collection more)
            · rw [Role.along_other] at h
              cases h

namespace Visited

theorem trans {document : Json} {start middle place : List String} (hfirst : Visited document start middle)
    (hsecond : Visited document middle place) : Visited document start place := by
  induction hsecond with
  | start => exact hfirst
  | nested name _ hnesting hobject ih => exact .nested name ih hnesting hobject

theorem exists_along {document : Json} {start place : List String} (h : Visited document start place) :
    ∃ rest, place = start ++ rest ∧ Role.collection.along rest = .collection := by
  induction h with
  | start => exact ⟨[], by simp, rfl⟩
  | nested name _ hnesting _ ih =>
      obtain ⟨rest, rfl, hrest⟩ := ih
      refine ⟨rest ++ name :: _, by rw [List.append_assoc], ?_⟩
      rw [Role.along_append, hrest]
      exact hnesting.along

theorem of_along {document : Json} {rest : List String} (start : List String)
    (hrest : Role.collection.along rest = .collection) (hobject : (document.objectAt? (start ++ rest)).isSome) :
    Visited document start (start ++ rest) := by
  cases rest with
  | nil => simpa using Visited.start
  | cons name more =>
      obtain ⟨nesting, back, rfl, hnesting, hback⟩ := nesting_of_along hrest
      have hsplit : start ++ name :: (nesting ++ back) = (start ++ name :: nesting) ++ back := by simp
      rw [hsplit] at hobject ⊢
      have hmiddle : Visited document start (start ++ name :: nesting) :=
        .nested name .start hnesting (Json.objectAt?_isSome_of_append hobject)
      exact hmiddle.trans (of_along _ hback hobject)
termination_by rest.length

/-- Every collection that is visited is an object, if the first is. -/
theorem exists_object {document : Json} {start place : List String} {entries : Fields}
    (hstart : document.objectAt? start = some entries) (h : Visited document start place) :
    ∃ collection, document.objectAt? place = some collection := by
  cases h with
  | start => exact ⟨entries, hstart⟩
  | nested name _ _ hobject => exact Option.isSome_iff_exists.mp hobject

end Visited

mutual

/-- Whether every collection in a value with a part passes a check. -/
def everyCollection (check : Fields → Bool) (r : Role) : Json → Bool
  | .object fields => (r != .collection || check fields) && everyCollectionIn check r fields
  | _ => true

def everyCollectionIn (check : Fields → Bool) (r : Role) : Fields → Bool
  | [] => true
  | (key, v) :: rest => everyCollection check (r.next key) v && everyCollectionIn check r rest

end

theorem everyCollectionIn_iff (check : Fields → Bool) (r : Role) (fields : Fields) :
    everyCollectionIn check r fields = true ↔
      ∀ field ∈ fields, everyCollection check (r.next field.1) field.2 = true := by
  induction fields with
  | nil => simp [everyCollectionIn]
  | cons field rest ih => rw [everyCollectionIn, Bool.and_eq_true, ih, List.forall_mem_cons]

theorem everyCollection_object_iff (check : Fields → Bool) (r : Role) (fields : Fields) :
    everyCollection check r (.object fields) = true ↔
      (r = .collection → check fields = true) ∧
        ∀ field ∈ fields, everyCollection check (r.next field.1) field.2 = true := by
  rw [everyCollection, Bool.and_eq_true, everyCollectionIn_iff, Bool.or_eq_true, bne_iff_ne, ne_eq,
    ← Decidable.imp_iff_not_or]

/-- What was checked of every collection in a value was checked of every collection in a part of it. -/
theorem everyCollection_at {check : Fields → Bool} {r : Role} {v w : Json} {place : List String}
    (h : everyCollection check r v = true) (hw : v.at? place = some w) :
    everyCollection check (r.along place) w = true := by
  induction place generalizing r v with
  | nil =>
      cases hw
      exact h
  | cons name rest ih =>
      rw [Json.at?_cons, Option.bind_eq_some_iff] at hw
      obtain ⟨part, hpart, hrest⟩ := hw
      cases v with
      | object fields =>
          rw [everyCollection_object_iff] at h
          exact ih (h.2 (name, part) (Fields.mem_of_get? hpart)) hrest
      | _ => cases hpart

theorem Visited.check {check : Fields → Bool} {document : Json} {start place : List String}
    {entries collection : Fields} (hstart : document.objectAt? start = some entries)
    (hcheck : everyCollection check .collection (.object entries) = true) (hplace : Visited document start place)
    (hcollection : document.objectAt? place = some collection) : check collection = true := by
  obtain ⟨rest, rfl, hrest⟩ := hplace.exists_along
  rw [Json.objectAt?_append, (Json.objectAt?_eq_some_iff _ _ _).mp hstart] at hcollection
  have hpart := everyCollection_at hcheck ((Json.objectAt?_eq_some_iff _ _ _).mp hcollection)
  rw [hrest, everyCollection_object_iff] at hpart
  exact hpart.1 rfl

end Binding

end WorkflowForge
