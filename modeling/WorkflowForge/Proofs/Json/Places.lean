import Mathlib.Data.List.Basic
import WorkflowForge.Json.Value

/-!
Fields of objects, and places in a value. A field is looked up at its first occurrence, so what matters of a list of
fields are its names in their order and the value under each name. A place is a list of names; looking up a longer
place is looking up its parts one after the other, and a change at a place shows at that place and below it only.
-/

namespace WorkflowForge

namespace Fields

@[simp] theorem get?_nil (name : String) : get? [] name = none := rfl

theorem get?_cons (key : String) (v : Json) (rest : Fields) (name : String) :
    get? ((key, v) :: rest) name = if name = key then some v else get? rest name := by
  change List.lookup name ((key, v) :: rest) = _
  rw [List.lookup_cons]
  by_cases h : name = key
  · simp [h]
  · have hne : (name == key) = false := by simpa using h
    rw [hne, if_neg h]
    rfl

@[simp] theorem names_nil : names [] = [] := rfl

@[simp] theorem names_cons (field : String × Json) (rest : Fields) : names (field :: rest) = field.1 :: names rest :=
  rfl

@[simp] theorem names_append (first second : Fields) : names (first ++ second) = names first ++ names second :=
  List.map_append

theorem has_iff (fields : Fields) (name : String) : has fields name = true ↔ name ∈ names fields := by
  simp [has, names]

theorem get?_eq_none_iff (fields : Fields) (name : String) : get? fields name = none ↔ name ∉ names fields := by
  induction fields with
  | nil => simp
  | cons field rest ih =>
      obtain ⟨key, v⟩ := field
      rw [get?_cons, names_cons, List.mem_cons]
      by_cases h : name = key
      · simp [h]
      · simp [h, ih]

theorem exists_get?_of_mem_names {fields : Fields} {name : String} (h : name ∈ names fields) :
    ∃ v, get? fields name = some v := by
  cases hget : get? fields name with
  | none => exact absurd h ((get?_eq_none_iff fields name).mp hget)
  | some v => exact ⟨v, rfl⟩

theorem mem_names_of_get? {fields : Fields} {name : String} {v : Json} (h : get? fields name = some v) :
    name ∈ names fields := by
  by_contra hmem
  rw [(get?_eq_none_iff fields name).mpr hmem] at h
  cases h

theorem mem_of_get? {fields : Fields} {name : String} {v : Json} (h : get? fields name = some v) :
    (name, v) ∈ fields := by
  induction fields with
  | nil => cases h
  | cons field rest ih =>
      obtain ⟨key, w⟩ := field
      rw [get?_cons] at h
      split at h
      · next heq =>
          cases h
          simp [heq]
      · exact List.mem_cons_of_mem _ (ih h)

theorem get?_append_of_mem {first : Fields} {name : String} (second : Fields) (h : name ∈ names first) :
    get? (first ++ second) name = get? first name := by
  induction first with
  | nil => simp at h
  | cons field rest ih =>
      obtain ⟨key, v⟩ := field
      rw [List.cons_append, get?_cons, get?_cons]
      by_cases heq : name = key
      · simp [heq]
      · have hrest : name ∈ names rest := by simpa [heq] using h
        simp [heq, ih hrest]

theorem get?_append_of_not_mem {first : Fields} {name : String} (second : Fields) (h : name ∉ names first) :
    get? (first ++ second) name = get? second name := by
  induction first with
  | nil => rfl
  | cons field rest ih =>
      obtain ⟨key, v⟩ := field
      rw [names_cons, List.mem_cons, not_or] at h
      rw [List.cons_append, get?_cons, if_neg h.1, ih h.2]

theorem modify_cons_self (name : String) (f : Json → Json) (v : Json) (rest : Fields) :
    modify name f ((name, v) :: rest) = (name, f v) :: rest :=
  if_pos (beq_self_eq_true name)

theorem modify_cons_of_ne {key name : String} (h : key ≠ name) (f : Json → Json) (v : Json) (rest : Fields) :
    modify name f ((key, v) :: rest) = (key, v) :: modify name f rest :=
  if_neg (by simpa using h)

@[simp] theorem names_modify (name : String) (f : Json → Json) (fields : Fields) :
    names (modify name f fields) = names fields := by
  induction fields with
  | nil => rfl
  | cons field rest ih =>
      obtain ⟨key, v⟩ := field
      by_cases h : key = name
      · subst h
        rw [modify_cons_self, names_cons, names_cons]
      · rw [modify_cons_of_ne h, names_cons, names_cons, ih]

theorem get?_modify_self (name : String) (f : Json → Json) (fields : Fields) :
    get? (modify name f fields) name = (get? fields name).map f := by
  induction fields with
  | nil => rfl
  | cons field rest ih =>
      obtain ⟨key, v⟩ := field
      by_cases h : key = name
      · subst h
        rw [modify_cons_self, get?_cons, get?_cons, if_pos rfl, if_pos rfl, Option.map_some]
      · have hne : ¬ name = key := fun heq => h heq.symm
        rw [modify_cons_of_ne h, get?_cons, get?_cons, if_neg hne, if_neg hne, ih]

theorem get?_modify_of_ne {name other : String} (f : Json → Json) (fields : Fields) (h : other ≠ name) :
    get? (modify name f fields) other = get? fields other := by
  induction fields with
  | nil => rfl
  | cons field rest ih =>
      obtain ⟨key, v⟩ := field
      by_cases hkey : key = name
      · subst hkey
        rw [modify_cons_self, get?_cons, get?_cons, if_neg h, if_neg h]
      · rw [modify_cons_of_ne hkey, get?_cons, get?_cons, ih]

theorem modify_congr {fields : Fields} {name : String} {f g : Json → Json}
    (h : ∀ v, get? fields name = some v → f v = g v) : modify name f fields = modify name g fields := by
  induction fields with
  | nil => rfl
  | cons field rest ih =>
      obtain ⟨key, v⟩ := field
      by_cases hkey : key = name
      · subst hkey
        rw [modify_cons_self, modify_cons_self, h v (by rw [get?_cons, if_pos rfl])]
      · have hrest : ∀ w, get? rest name = some w → f w = g w := fun w hw =>
          h w (by rw [get?_cons, if_neg (fun heq => hkey heq.symm), hw])
        rw [modify_cons_of_ne hkey, modify_cons_of_ne hkey, ih hrest]

theorem mem_modify {fields : Fields} {name : String} {f : Json → Json} {field : String × Json}
    (h : field ∈ modify name f fields) :
    field ∈ fields ∨ ∃ v, get? fields name = some v ∧ field = (name, f v) := by
  induction fields with
  | nil => cases h
  | cons head rest ih =>
      obtain ⟨key, v⟩ := head
      by_cases hkey : key = name
      · subst hkey
        rw [modify_cons_self, List.mem_cons] at h
        rcases h with rfl | hrest
        · exact .inr ⟨v, by rw [get?_cons, if_pos rfl], rfl⟩
        · exact .inl (List.mem_cons_of_mem _ hrest)
      · rw [modify_cons_of_ne hkey, List.mem_cons] at h
        rcases h with rfl | hrest
        · exact .inl List.mem_cons_self
        · rcases ih hrest with hold | ⟨w, hw, rfl⟩
          · exact .inl (List.mem_cons_of_mem _ hold)
          · exact .inr ⟨w, by rw [get?_cons, if_neg fun heq => hkey heq.symm, hw], rfl⟩

theorem modify_id (name : String) (fields : Fields) : modify name id fields = fields := by
  induction fields with
  | nil => rfl
  | cons field rest ih =>
      obtain ⟨key, v⟩ := field
      by_cases h : key = name
      · subst h
        rw [modify_cons_self, id]
      · rw [modify_cons_of_ne h, ih]

theorem modify_modify (name : String) (f g : Json → Json) (fields : Fields) :
    modify name g (modify name f fields) = modify name (g ∘ f) fields := by
  induction fields with
  | nil => rfl
  | cons field rest ih =>
      obtain ⟨key, v⟩ := field
      by_cases h : key = name
      · subst h
        rw [modify_cons_self, modify_cons_self, modify_cons_self, Function.comp_apply]
      · rw [modify_cons_of_ne h, modify_cons_of_ne h, modify_cons_of_ne h, ih]

theorem set_of_has {fields : Fields} {name : String} (v : Json) (h : has fields name = true) :
    set fields name v = modify name (fun _ => v) fields :=
  if_pos h

theorem set_of_not_has {fields : Fields} {name : String} (v : Json) (h : ¬ has fields name = true) :
    set fields name v = fields ++ [(name, v)] :=
  if_neg h

theorem names_set (fields : Fields) (name : String) (v : Json) :
    names (set fields name v) = if has fields name then names fields else names fields ++ [name] := by
  by_cases h : has fields name = true
  · rw [set_of_has v h, if_pos h, names_modify]
  · rw [set_of_not_has v h, if_neg h, names_append, names_cons, names_nil]

theorem get?_set_self (fields : Fields) (name : String) (v : Json) : get? (set fields name v) name = some v := by
  by_cases h : has fields name = true
  · obtain ⟨old, hold⟩ := exists_get?_of_mem_names ((has_iff fields name).mp h)
    rw [set_of_has v h, get?_modify_self, hold, Option.map_some]
  · rw [set_of_not_has v h, get?_append_of_not_mem _ (fun hmem => h ((has_iff fields name).mpr hmem)), get?_cons,
      if_pos rfl]

theorem get?_set_of_ne {name other : String} (fields : Fields) (v : Json) (h : other ≠ name) :
    get? (set fields name v) other = get? fields other := by
  by_cases hhas : has fields name = true
  · rw [set_of_has v hhas, get?_modify_of_ne _ fields h]
  · rw [set_of_not_has v hhas]
    by_cases hmem : other ∈ names fields
    · exact get?_append_of_mem _ hmem
    · rw [get?_append_of_not_mem _ hmem, get?_cons, if_neg h, (get?_eq_none_iff fields other).mpr hmem, get?_nil]

end Fields

namespace Json

/-- Induction over objects: a value that is no object is a base case, whatever it holds. -/
theorem fieldInduction {P : Json → Prop} (other : ∀ v : Json, v.asObject? = none → P v)
    (object : ∀ fields : Fields, (∀ name v, (name, v) ∈ fields → P v) → P (.object fields)) : ∀ v, P v
  | .null => other _ rfl
  | .bool _ => other _ rfl
  | .int _ => other _ rfl
  | .float _ => other _ rfl
  | .string _ => other _ rfl
  | .array _ => other _ rfl
  | .object fields => object fields fun name v hmem => by
      have hfield : sizeOf (name, v) < sizeOf fields := List.sizeOf_lt_of_mem hmem
      have hsize : sizeOf v < 1 + sizeOf fields := by
        simp only [Prod.mk.sizeOf_spec] at hfield
        omega
      exact fieldInduction other object v
termination_by v => sizeOf v

theorem asObject?_eq_some_iff (v : Json) (fields : Fields) : v.asObject? = some fields ↔ v = .object fields := by
  cases v <;> simp [asObject?]

theorem field?_object (fields : Fields) (name : String) : (object fields).field? name = Fields.get? fields name :=
  rfl

@[simp] theorem at?_nil (v : Json) : v.at? [] = some v := rfl

theorem at?_cons (name : String) (rest : List String) (v : Json) :
    v.at? (name :: rest) = (v.field? name).bind (at? rest) := rfl

theorem at?_append (first second : List String) (v : Json) :
    v.at? (first ++ second) = (v.at? first).bind (at? second) := by
  induction first generalizing v with
  | nil => rfl
  | cons name rest ih =>
      simp only [List.cons_append, at?_cons, Option.bind_assoc]
      congr 1
      funext below
      exact ih below

theorem objectAt?_eq_some_iff (place : List String) (v : Json) (fields : Fields) :
    v.objectAt? place = some fields ↔ v.at? place = some (.object fields) := by
  simp [objectAt?, Option.bind_eq_some_iff, asObject?_eq_some_iff]

theorem objectAt?_cons (name : String) (rest : List String) (v : Json) :
    v.objectAt? (name :: rest) = (v.field? name).bind (objectAt? rest) := by
  simp only [objectAt?, at?_cons, Option.bind_assoc]
  rfl

theorem objectAt?_append (first second : List String) (v : Json) :
    v.objectAt? (first ++ second) = (v.at? first).bind (objectAt? second) := by
  simp only [objectAt?, at?_append, Option.bind_assoc]
  rfl

/-- Below an object a place goes on with the field of its next name. -/
theorem at?_append_cons {place : List String} {v : Json} {fields : Fields} (h : v.objectAt? place = some fields)
    (name : String) (rest : List String) :
    v.at? (place ++ name :: rest) = (Fields.get? fields name).bind (at? rest) := by
  rw [at?_append, (objectAt?_eq_some_iff place v fields).mp h]
  rfl

theorem at?_snoc {place : List String} {v : Json} {fields : Fields} (h : v.objectAt? place = some fields)
    (name : String) : v.at? (place ++ [name]) = Fields.get? fields name := by
  rw [at?_append_cons h]
  cases Fields.get? fields name <;> rfl

/-- Whatever stands below a place stands in an object. -/
theorem exists_object_of_at? {place : List String} {name : String} {rest : List String} {v w : Json}
    (h : v.at? (place ++ name :: rest) = some w) :
    ∃ fields, v.objectAt? place = some fields ∧ (Fields.get? fields name).bind (at? rest) = some w := by
  rw [at?_append, Option.bind_eq_some_iff] at h
  obtain ⟨middle, hmiddle, hbelow⟩ := h
  rw [at?_cons] at hbelow
  cases middle with
  | object fields => exact ⟨fields, (objectAt?_eq_some_iff place v fields).mpr hmiddle, hbelow⟩
  | _ => cases hbelow

theorem objectAt?_isSome_of_append {first second : List String} {v : Json}
    (h : (v.objectAt? (first ++ second)).isSome) : (v.objectAt? first).isSome := by
  cases second with
  | nil => simpa using h
  | cons name rest =>
      obtain ⟨fields, hfields⟩ := Option.isSome_iff_exists.mp h
      obtain ⟨above, habove, _⟩ := exists_object_of_at? ((objectAt?_eq_some_iff _ _ _).mp hfields)
      rw [habove]
      rfl

/-- A value without what its fields hold: the names of an object in their order, any other value as it is. -/
def outline : Json → Json ⊕ List String
  | .object fields => .inr (Fields.names fields)
  | v => .inl v

/-- The outline of what is at a place. -/
def outlineAt? (place : List String) (v : Json) : Option (Json ⊕ List String) := (v.at? place).map outline

theorem outlineAt?_cons (name : String) (rest : List String) (v : Json) :
    v.outlineAt? (name :: rest) = (v.field? name).bind (outlineAt? rest) := by
  simp only [outlineAt?, at?_cons, Option.map_bind]
  rfl

theorem outlineAt?_of_objectAt? {place : List String} {v : Json} {fields : Fields}
    (h : v.objectAt? place = some fields) : v.outlineAt? place = some (.inr (Fields.names fields)) := by
  rw [outlineAt?, (objectAt?_eq_some_iff place v fields).mp h]
  rfl

@[simp] theorem modifyAt_nil (f : Json → Json) (v : Json) : v.modifyAt [] f = f v := by
  cases v <;> rfl

theorem modifyAt_cons (name : String) (more : List String) (f : Json → Json) (fields : Fields) :
    modifyAt (name :: more) f (.object fields) = .object (Fields.modify name (modifyAt more f) fields) :=
  rfl

/-- A change at a place depends on what it makes of the value there. -/
theorem modifyAt_congr {place : List String} {f g : Json → Json} {v : Json}
    (h : ∀ w, v.at? place = some w → f w = g w) : v.modifyAt place f = v.modifyAt place g := by
  induction place generalizing v with
  | nil =>
      rw [modifyAt_nil, modifyAt_nil]
      exact h v rfl
  | cons name more ih =>
      cases v with
      | object fields =>
          rw [modifyAt_cons, modifyAt_cons, Fields.modify_congr fun w hw => ih fun x hx => h x ?_]
          change (Fields.get? fields name).bind _ = some x
          rw [hw]
          exact hx
      | _ => rfl

theorem modifyAt_id (place : List String) (v : Json) : v.modifyAt place id = v := by
  induction place generalizing v with
  | nil => rw [modifyAt_nil, id]
  | cons name more ih =>
      cases v with
      | object fields =>
          have hmore : modifyAt more id = id := funext ih
          rw [modifyAt_cons, hmore, Fields.modify_id]
      | _ => rfl

theorem modifyAt_modifyAt (place : List String) (f g : Json → Json) (v : Json) :
    (v.modifyAt place f).modifyAt place g = v.modifyAt place (g ∘ f) := by
  induction place generalizing v with
  | nil => simp only [modifyAt_nil, Function.comp_apply]
  | cons name more ih =>
      cases v with
      | object fields =>
          have hmore : modifyAt more g ∘ modifyAt more f = modifyAt more (g ∘ f) := funext ih
          rw [modifyAt_cons, modifyAt_cons, modifyAt_cons, Fields.modify_modify, hmore]
      | _ => rfl

theorem modifyAt_append (first second : List String) (f : Json → Json) (v : Json) :
    v.modifyAt (first ++ second) f = v.modifyAt first (modifyAt second f) := by
  induction first generalizing v with
  | nil => rw [List.nil_append, modifyAt_nil]
  | cons name more ih =>
      cases v with
      | object fields =>
          have hmore : modifyAt (more ++ second) f = modifyAt more (modifyAt second f) := funext ih
          rw [List.cons_append, modifyAt_cons, modifyAt_cons, hmore]
      | _ => rfl

/-- A value is not changed by putting in place what is there. -/
theorem modifyAt_const {place : List String} {v w : Json} (h : v.at? place = some w) :
    v.modifyAt place (fun _ => w) = v := by
  refine Eq.trans (modifyAt_congr fun x hx => ?_) (modifyAt_id place v)
  rw [h] at hx
  cases hx
  rfl

/-- Where there is nothing, nothing is changed. -/
theorem modifyAt_of_absent {place : List String} (f : Json → Json) {v : Json} (h : v.at? place = none) :
    v.modifyAt place f = v := by
  refine Eq.trans (modifyAt_congr fun w hw => ?_) (modifyAt_id place v)
  rw [h] at hw
  cases hw

/-- No value has something at every place. -/
theorem exists_absent (v : Json) : ∃ place, v.at? place = none := by
  induction v using fieldInduction with
  | other v h =>
      refine ⟨[""], ?_⟩
      cases v with
      | object fields => cases h
      | _ => rfl
  | object fields ih =>
      cases fields with
      | nil => exact ⟨[""], rfl⟩
      | cons field rest =>
          obtain ⟨name, v⟩ := field
          obtain ⟨place, hplace⟩ := ih name v (by simp)
          refine ⟨name :: place, ?_⟩
          change (Fields.get? ((name, v) :: rest) name).bind _ = none
          rw [Fields.get?_cons, if_pos rfl]
          exact hplace

/-- A change at a place shows there, and below it. -/
theorem at?_modifyAt_append (place rest : List String) (f : Json → Json) (v : Json) :
    (v.modifyAt place f).at? (place ++ rest) = (v.at? place).bind fun w => (f w).at? rest := by
  induction place generalizing v with
  | nil => simp
  | cons name more ih =>
      cases v with
      | object fields =>
          rw [List.cons_append, modifyAt_cons, at?_cons, at?_cons, field?_object, field?_object, Fields.get?_modify_self]
          cases Fields.get? fields name with
          | none => rfl
          | some w => exact ih w
      | _ => rfl

theorem at?_modifyAt (place : List String) (f : Json → Json) (v : Json) :
    (v.modifyAt place f).at? place = (v.at? place).map f := by
  have hthere := at?_modifyAt_append place [] f v
  rw [List.append_nil] at hthere
  rw [hthere]
  cases v.at? place <;> rfl

theorem objectAt?_modifyAt_const {place : List String} {v : Json} {old : Fields} (new : Fields)
    (h : v.objectAt? place = some old) : (v.modifyAt place fun _ => .object new).objectAt? place = some new := by
  rw [objectAt?_eq_some_iff] at h ⊢
  rw [at?_modifyAt, h, Option.map_some]

/-- A change at a place leaves the outline of everything that is not at or below it. -/
theorem outlineAt?_modifyAt {place other : List String} (f : Json → Json) (v : Json) (h : ¬ place <+: other) :
    (v.modifyAt place f).outlineAt? other = v.outlineAt? other := by
  induction place generalizing v other with
  | nil => exact absurd List.nil_prefix h
  | cons name more ih =>
      cases v with
      | object fields =>
          cases other with
          | nil =>
              rw [modifyAt_cons]
              change some (Sum.inr (Fields.names (Fields.modify _ _ fields))) = some (Sum.inr (Fields.names fields))
              rw [Fields.names_modify]
          | cons first rest =>
              rw [outlineAt?_cons, outlineAt?_cons, modifyAt_cons, field?_object, field?_object]
              by_cases heq : first = name
              · subst heq
                have hrest : ¬ more <+: rest := fun hp => h (by simpa using hp)
                rw [Fields.get?_modify_self]
                cases Fields.get? fields first with
                | none => rfl
                | some w => exact ih w hrest
              · rw [Fields.get?_modify_of_ne _ fields heq]
      | _ => rfl

end Json

end WorkflowForge
