import Mathlib.Data.List.Perm.Basic
import Mathlib.Data.Set.Card
import WorkflowForge.Proofs.Binding.Effect

/-!
Binding is idempotent, and it counts what it adds. The links that a value lacks are listed with their places: one for
each entry of a visited collection whose body is an object and has no link to the entry before it. Binding adds just
these. What it gives lacks nothing, and what lacks nothing is left as it is; so to bind once is to bind any number of
times, and nothing is added exactly if nothing is changed.
-/

namespace WorkflowForge

namespace Json

mutual

/-- Whether no object in a value has two fields of one name. -/
def isDistinct : Json → Bool
  | .object fields => decide (Fields.names fields).Nodup && areDistinctIn fields
  | .array items => areDistinct items
  | _ => true

def areDistinctIn : Fields → Bool
  | [] => true
  | (_, v) :: rest => isDistinct v && areDistinctIn rest

def areDistinct : List Json → Bool
  | [] => true
  | v :: rest => isDistinct v && areDistinct rest

end

theorem areDistinctIn_iff (fields : Fields) :
    areDistinctIn fields = true ↔ ∀ field ∈ fields, field.2.isDistinct = true := by
  induction fields with
  | nil => simp [areDistinctIn]
  | cons field rest ih => rw [areDistinctIn, Bool.and_eq_true, ih, List.forall_mem_cons]

theorem isDistinct_object_iff (fields : Fields) :
    (Json.object fields).isDistinct = true ↔
      (Fields.names fields).Nodup ∧ ∀ field ∈ fields, field.2.isDistinct = true := by
  rw [isDistinct, Bool.and_eq_true, decide_eq_true_eq, areDistinctIn_iff]

end Json

namespace Fields

theorem get?_of_mem {fields : Fields} (hdistinct : (names fields).Nodup) {name : String} {v : Json}
    (h : (name, v) ∈ fields) : get? fields name = some v := by
  induction fields with
  | nil => cases h
  | cons field rest ih =>
      rw [names_cons, List.nodup_cons] at hdistinct
      rcases List.mem_cons.mp h with rfl | hrest
      · rw [get?_cons, if_pos rfl]
      · have hne : name ≠ field.1 := fun heq => hdistinct.1 (heq ▸ List.mem_map_of_mem hrest)
        rw [get?_cons, if_neg hne, ih hdistinct.2 hrest]

/-- What is put together of fields does not see a change of one that counts for nothing. -/
theorem flatMap_modify {α : Type} (g : String × Json → List α) (name : String) (f : Json → Json)
    (hg : ∀ v, g (name, v) = []) (fields : Fields) : (modify name f fields).flatMap g = fields.flatMap g := by
  induction fields with
  | nil => rfl
  | cons field rest ih =>
      obtain ⟨key, v⟩ := field
      by_cases hkey : key = name
      · subst hkey
        simp [modify, hg]
      · simp [modify, hkey, ih]

theorem flatMap_set {α : Type} (g : String × Json → List α) (fields : Fields) (name : String) (value : Json)
    (hg : ∀ v, g (name, v) = []) : (set fields name value).flatMap g = fields.flatMap g := by
  unfold set
  split
  · exact flatMap_modify g name _ hg fields
  · simp [hg]

end Fields

namespace Binding

/-- The link that an entry lacks, where there is an entry before it. -/
def newLinks : Option String → String → Json → List Link
  | some previous, name, .object body => if Fields.has (linksOf body) previous then [] else [⟨name, previous⟩]
  | _, _, _ => []

theorem chainLinks_cons (previous : Option String) (name : String) (body : Json) (rest : Fields) :
    chainLinks previous ((name, body) :: rest) = newLinks previous name body ++ chainLinks (some name) rest := by
  cases previous with
  | none => rfl
  | some p =>
      cases body with
      | object fields =>
          rw [chainLinks, newLinks]
          split <;> rfl
      | _ => rfl

theorem chainLinks_pair (previous name : String) (value body : Json) (rest : Fields) :
    chainLinks none ((previous, value) :: (name, body) :: rest) =
      newLinks (some previous) name body ++ chainLinks none ((name, body) :: rest) :=
  chainLinks_cons (some previous) name body rest

theorem mem_newLinks_iff (previous : Option String) (name : String) (v : Json) (l : Link) :
    l ∈ newLinks previous name v ↔
      previous = some l.runAfter ∧ name = l.action ∧
        ∃ body, v = .object body ∧ l.runAfter ∉ Fields.names (linksOf body) := by
  obtain ⟨action, runAfter⟩ := l
  cases previous with
  | none => simp [newLinks]
  | some p =>
      cases v with
      | object body =>
          rw [newLinks]
          split
          · next h =>
              rw [Fields.has_iff] at h
              simp only [List.not_mem_nil, false_iff, Option.some.injEq, Json.object.injEq, not_and]
              rintro rfl rfl ⟨_, rfl, habsent⟩
              exact habsent h
          · next h =>
              rw [Fields.has_iff] at h
              simp only [List.mem_singleton, Link.mk.injEq, Option.some.injEq, Json.object.injEq]
              constructor
              · rintro ⟨rfl, rfl⟩
                exact ⟨rfl, rfl, body, rfl, h⟩
              · rintro ⟨rfl, rfl, _⟩
                exact ⟨rfl, rfl⟩
      | _ => simp [newLinks]

/-- Chaining adds a link between two entries next to each other, where the second has an object for its body and lacks
the link. -/
theorem mem_chainLinks_iff (entries : Fields) (l : Link) :
    l ∈ chainLinks none entries ↔
      ∃ front value body back, entries = front ++ (l.runAfter, value) :: (l.action, .object body) :: back ∧
        l.runAfter ∉ Fields.names (linksOf body) := by
  induction entries with
  | nil => simp [chainLinks]
  | cons first rest ih =>
      cases rest with
      | nil =>
          simp only [chainLinks, List.not_mem_nil, false_iff]
          rintro ⟨front, value, body, back, heq, _⟩
          have hlength := congrArg List.length heq
          simp at hlength
          omega
      | cons second more =>
          obtain ⟨previous, value⟩ := first
          obtain ⟨name, body⟩ := second
          rw [chainLinks_pair, List.mem_append, mem_newLinks_iff, ih]
          constructor
          · rintro (⟨hprevious, rfl, fields, rfl, habsent⟩ | ⟨front, v, fields, back, heq, habsent⟩)
            · cases hprevious
              exact ⟨[], value, fields, more, rfl, habsent⟩
            · exact ⟨(previous, value) :: front, v, fields, back, by rw [heq]; rfl, habsent⟩
          · rintro ⟨front, v, fields, back, heq, habsent⟩
            cases front with
            | nil =>
                cases heq
                exact .inl ⟨rfl, rfl, fields, rfl, habsent⟩
            | cons entry front => exact .inr ⟨front, v, fields, back, (List.cons.inj heq).2, habsent⟩

/-- In a collection with names of their own that is where an entry follows another and lacks the link to it. -/
theorem mem_chainLinks_iff_follows {entries : Fields} (hdistinct : (Fields.names entries).Nodup) (l : Link) :
    l ∈ chainLinks none entries ↔
      ∃ body, Fields.Follows entries l.runAfter l.action (.object body) ∧ l.runAfter ∉ Fields.names (linksOf body) := by
  rw [mem_chainLinks_iff]
  constructor
  · rintro ⟨front, value, body, back, rfl, habsent⟩
    refine ⟨body, ⟨front, value, back, rfl, ?_, ?_⟩, habsent⟩
    · rw [Fields.names_append, List.nodup_append] at hdistinct
      exact fun hmem => hdistinct.2.2 _ hmem l.action (by simp) rfl
    · rw [Fields.names_append, List.nodup_append] at hdistinct
      have hnodup := hdistinct.2.1
      rw [Fields.names_cons, Fields.names_cons, List.nodup_cons, List.mem_cons, not_or] at hnodup
      exact Ne.symm hnodup.1.1
  · rintro ⟨body, ⟨front, value, back, heq, _, _⟩, habsent⟩
    exact ⟨front, value, body, back, heq, habsent⟩

theorem actions_chainLinks (previous : Option String) (entries : Fields) :
    ((chainLinks previous entries).map Link.action).Sublist (Fields.names entries) := by
  induction entries generalizing previous with
  | nil => cases previous <;> exact List.Sublist.slnil
  | cons entry rest ih =>
      obtain ⟨name, body⟩ := entry
      have hnew : ((newLinks previous name body).map Link.action).Sublist [name] := by
        unfold newLinks
        split
        · split
          · exact List.nil_sublist _
          · exact List.Sublist.refl _
        · exact List.nil_sublist _
      rw [chainLinks_cons, List.map_append, Fields.names_cons]
      exact hnew.append (ih (some name))

theorem linkTo_eq_self {previous : Option String} {name : String} {v : Json} (h : newLinks previous name v = []) :
    linkTo previous v = v := by
  cases previous with
  | none => rfl
  | some p =>
      cases v with
      | object body =>
          rw [newLinks] at h
          split at h
          · next hhas =>
              have hlinks : Fields.get? body "runAfter" = some (.object (linksOf body)) := by
                rw [linksOf] at hhas ⊢
                split at hhas
                · assumption
                · cases hhas
              have hset : Fields.set body "runAfter" (.object (linksOf body)) = body := by
                rw [Fields.set, if_pos ((Fields.has_iff _ _).mpr (Fields.mem_names_of_get? hlinks))]
                refine (Fields.modify_congr fun v hv => ?_).trans (Fields.modify_id "runAfter" body)
                rw [hlinks] at hv
                exact Option.some.inj hv
              rw [linkTo, linked_eq_set, withLink, if_pos hhas, hset]
          · cases h
      | _ => rfl

theorem chain_eq_self {previous : Option String} {entries : Fields} (h : chainLinks previous entries = []) :
    chain previous entries = entries := by
  induction entries generalizing previous with
  | nil => cases previous <;> rfl
  | cons entry rest ih =>
      obtain ⟨name, body⟩ := entry
      rw [chainLinks_cons, List.append_eq_nil_iff] at h
      rw [chain_cons, linkTo_eq_self h.1, ih h.2]

/-- An entry that was linked lacks no link. -/
theorem newLinks_linkTo (previous : Option String) (name : String) (v : Json) :
    newLinks previous name (linkTo previous v) = [] := by
  cases previous with
  | none => rfl
  | some p =>
      cases v with
      | object body =>
          have hlinks : linksOf (linked p body) = withLink p (linksOf body) := by
            rw [linksOf, linked_eq_set, Fields.get?_set_self]
          have hhas : Fields.has (withLink p (linksOf body)) p = true := by
            unfold withLink
            split
            · assumption
            · rw [Fields.has_iff]
              simp
          rw [linkTo, newLinks, hlinks, if_pos hhas]
      | _ => rfl

theorem chainLinks_chain (previous : Option String) (entries : Fields) :
    chainLinks previous (chain previous entries) = [] := by
  induction entries generalizing previous with
  | nil => cases previous <;> rfl
  | cons entry rest ih =>
      obtain ⟨name, body⟩ := entry
      rw [chain_cons, chainLinks_cons, newLinks_linkTo, ih, List.append_nil]

mutual

/-- The links that a value with a part in binding lacks, each with the place of its collection. -/
def lacking (r : Role) : Json → List (List String × Link)
  | .object fields => (if r = .collection then (chainLinks none fields).map ([], ·) else []) ++ lackingIn r fields
  | _ => []

def lackingIn (r : Role) : Fields → List (List String × Link)
  | [] => []
  | (key, v) :: rest => (lacking (r.next key) v).map (Prod.map (key :: ·) id) ++ lackingIn r rest

end

theorem lackingIn_eq_flatMap (r : Role) (fields : Fields) :
    lackingIn r fields =
      fields.flatMap fun field => (lacking (r.next field.1) field.2).map (Prod.map (field.1 :: ·) id) := by
  induction fields with
  | nil => rw [lackingIn, List.flatMap_nil]
  | cons field rest ih => rw [lackingIn, ih, List.flatMap_cons]

theorem lackingIn_eq_nil_iff (r : Role) (fields : Fields) :
    lackingIn r fields = [] ↔ ∀ field ∈ fields, lacking (r.next field.1) field.2 = [] := by
  rw [lackingIn_eq_flatMap, List.flatMap_eq_nil_iff]
  simp only [List.map_eq_nil_iff]

theorem lacking_object_eq_nil_iff (r : Role) (fields : Fields) :
    lacking r (.object fields) = [] ↔
      (r = .collection → chainLinks none fields = []) ∧ ∀ field ∈ fields, lacking (r.next field.1) field.2 = [] := by
  rw [lacking, List.append_eq_nil_iff, lackingIn_eq_nil_iff]
  by_cases hr : r = .collection <;> simp [hr]

/-- Where binding does not come, nothing is lacking. -/
theorem lacking_eq_nil {r : Role} (hr : ∀ place, r.along place ≠ .collection) (v : Json) : lacking r v = [] := by
  induction v using Json.fieldInduction generalizing r with
  | other v h =>
      cases v with
      | object fields => cases h
      | _ => rfl
  | object fields ih =>
      rw [lacking_object_eq_nil_iff]
      exact ⟨fun heq => absurd heq (hr []), fun field hfield => ih _ _ hfield fun place => hr (field.1 :: place)⟩

/-- A link that is added changes nothing of what is lacking in the body. -/
theorem lacking_linkTo (previous : Option String) (v : Json) : lacking .body (linkTo previous v) = lacking .body v := by
  cases previous with
  | none => rfl
  | some p =>
      cases v with
      | object body =>
          have hbody : Role.body ≠ .collection := by decide
          rw [linkTo, lacking, lacking, if_neg hbody, if_neg hbody, lackingIn_eq_flatMap, lackingIn_eq_flatMap,
            linked_eq_set, Fields.flatMap_set]
          intro v
          have hnone : lacking (Role.body.next "runAfter") v = [] := lacking_eq_nil Role.along_links_ne_collection v
          rw [hnone, List.map_nil]
      | _ => rfl

theorem lackingIn_chain (previous : Option String) (entries : Fields) :
    lackingIn .collection (chain previous entries) = lackingIn .collection entries := by
  induction entries generalizing previous with
  | nil => cases previous <;> rfl
  | cons entry rest ih =>
      obtain ⟨name, body⟩ := entry
      rw [chain_cons, lackingIn, lackingIn, ih, Role.next, lacking_linkTo]

/-- Binding makes of an object that is no collection what it makes of each field. -/
theorem Role.bound_object {r : Role} (hr : r ≠ .collection) (fields : Fields) :
    r.bound (.object fields) = .object (fields.map fun field => (field.1, (r.next field.1).bound field.2)) := by
  cases r with
  | collection => exact absurd rfl hr
  | body =>
      simp only [Role.bound_next_body]
      change Json.object (bindParts fields) = _
      rw [bindParts_eq_map]
  | cases =>
      change Json.object (bindCaseFields fields) = _
      rw [bindCaseFields_eq_map]
      rfl
  | branch =>
      change Json.object (bindBranchFields fields) = _
      rw [bindBranchFields_eq_map]
      refine congrArg Json.object (List.map_congr_left fun field _ => ?_)
      simp only [Role.next]
      split <;> rfl
  | links => simp [Role.bound, Role.next]
  | other => simp [Role.bound, Role.next]

/-- What was bound lacks nothing. -/
theorem lacking_bound (r : Role) (v : Json) : lacking r (r.bound v) = [] := by
  induction v using Json.fieldInduction generalizing r with
  | other v h =>
      cases v with
      | object fields => cases h
      | _ => cases r <;> rfl
  | object fields ih =>
      by_cases hr : r = .collection
      · subst hr
        change lacking .collection (.object (chain none (below fields))) = []
        rw [lacking, if_pos rfl, chainLinks_chain, lackingIn_chain, List.map_nil, List.nil_append, lackingIn_eq_nil_iff,
          below_eq_map]
        intro field hfield
        obtain ⟨entry, hentry, rfl⟩ := List.mem_map.mp hfield
        exact ih entry.1 entry.2 hentry .body
      · rw [Role.bound_object hr, lacking_object_eq_nil_iff]
        refine ⟨fun heq => absurd heq hr, fun field hfield => ?_⟩
        obtain ⟨part, hpart, rfl⟩ := List.mem_map.mp hfield
        exact ih part.1 part.2 hpart (r.next part.1)

/-- What lacks nothing is left as it is. -/
theorem bound_eq_self {r : Role} {v : Json} (h : lacking r v = []) : r.bound v = v := by
  induction v using Json.fieldInduction generalizing r with
  | other v hv =>
      cases v with
      | object fields => cases hv
      | _ => cases r <;> rfl
  | object fields ih =>
      rw [lacking_object_eq_nil_iff] at h
      obtain ⟨hchain, hfields⟩ := h
      have hmap : (fields.map fun field => (field.1, (r.next field.1).bound field.2)) = fields := by
        refine (List.map_congr_left fun field hfield => ?_).trans (List.map_id fields)
        rw [ih field.1 field.2 hfield (hfields field hfield)]
        rfl
      by_cases hr : r = .collection
      · subst hr
        change Json.object (chain none (below fields)) = _
        have hbelow : below fields = fields := by
          rw [below_eq_map]
          exact hmap
        rw [hbelow, chain_eq_self (hchain rfl)]
      · rw [Role.bound_object hr, hmap]

/-- A collection that was bound is left as it is when it is bound again. -/
theorem bind_bind (entries : Fields) : bind (bind entries) = bind entries := by
  have hbound := bound_eq_self (lacking_bound .collection (.object entries))
  exact Json.object.inj hbound

/-- The links of a field of a body, by its name. -/
def partLink (key : String) (v : Json) : List Link :=
  if key == "actions" then collectionLinks v
  else if key == "cases" then caseLinks v
  else if key == "default" || key == "else" then branchLinks v
  else []

theorem linksBelow_eq_flatMap (entries : Fields) :
    linksBelow entries = entries.flatMap fun entry => bodyLinks entry.2 := by
  induction entries with
  | nil => rw [linksBelow, List.flatMap_nil]
  | cons entry rest ih => rw [linksBelow, ih, List.flatMap_cons]

theorem caseFieldLinks_eq_flatMap (fields : Fields) :
    caseFieldLinks fields = fields.flatMap fun field => branchLinks field.2 := by
  induction fields with
  | nil => rw [caseFieldLinks, List.flatMap_nil]
  | cons field rest ih => rw [caseFieldLinks, ih, List.flatMap_cons]

theorem branchFieldLinks_eq_flatMap (fields : Fields) :
    branchFieldLinks fields =
      fields.flatMap fun field => if field.1 == "actions" then collectionLinks field.2 else [] := by
  induction fields with
  | nil => rw [branchFieldLinks, List.flatMap_nil]
  | cons field rest ih => rw [branchFieldLinks, ih, List.flatMap_cons]

theorem partLinks_eq_map (fields : Fields) :
    partLinks fields = fields.map fun field => (field.1, partLink field.1 field.2) := by
  induction fields with
  | nil => rw [partLinks, List.map_nil]
  | cons field rest ih => rw [partLinks, ih, List.map_cons, partLink]

/-- The links that binding adds to a value with a part. -/
def Role.added : Role → Json → List Link
  | .collection => collectionLinks
  | .body => bodyLinks
  | .cases => caseLinks
  | .branch => branchLinks
  | .links => fun _ => []
  | .other => fun _ => []

theorem added_next_body (key : String) : (Role.body.next key).added = partLink key := by
  funext v
  unfold Role.next partLink
  dsimp only
  split
  · rfl
  · split
    · rfl
    · split
      · rfl
      · split <;> rfl

theorem lookup_partLinks (fields : Fields) (key : String) :
    (partLinks fields).lookup key = (Fields.get? fields key).map (partLink key) := by
  rw [partLinks_eq_map]
  induction fields with
  | nil => rfl
  | cons field rest ih =>
      rw [List.map_cons, List.lookup_cons, ih, Fields.get?_cons]
      by_cases hkey : key = field.1
      · simp [hkey]
      · have hne : (key == field.1) = false := by simpa using hkey
        simp [hne, hkey]

theorem mem_collectionKeys_of_partLink {key : String} {v : Json} (h : partLink key v ≠ []) : key ∈ collectionKeys := by
  unfold partLink at h
  simp only [Bool.or_eq_true, beq_iff_eq] at h
  simp only [collectionKeys, List.mem_cons, List.not_mem_nil, or_false]
  grind

theorem flatMap_only {α : Type} {keys : List String} (hkeys : keys.Nodup) (key : String) (items : List α) :
    (keys.flatMap fun other => if other = key then items else []) = if key ∈ keys then items else [] := by
  induction keys with
  | nil => rfl
  | cons first rest ih =>
      rw [List.nodup_cons] at hkeys
      rw [List.flatMap_cons, ih hkeys.2]
      by_cases hfirst : first = key
      · subst hfirst
        simp [hkeys.1]
      · have hne : ¬ key = first := fun heq => hfirst heq.symm
        simp [hfirst, hne]

/-- The links of a body are those of its fields, put in the order in which the collections are bound. -/
theorem bodyLinks_perm {fields : Fields} (hdistinct : (Fields.names fields).Nodup) :
    (bodyLinks (.object fields)).Perm (fields.flatMap fun field => partLink field.1 field.2) := by
  rw [bodyLinks]
  simp only [lookup_partLinks]
  induction fields with
  | nil => exact List.Perm.refl _
  | cons field rest ih =>
      obtain ⟨key, v⟩ := field
      rw [Fields.names_cons, List.nodup_cons] at hdistinct
      have hsplit (other : String) : ((Fields.get? ((key, v) :: rest) other).map (partLink other)).getD [] =
          (if other = key then partLink key v else []) ++ ((Fields.get? rest other).map (partLink other)).getD [] := by
        rw [Fields.get?_cons]
        split
        · next heq =>
            rw [heq, (Fields.get?_eq_none_iff rest key).mpr hdistinct.1]
            simp
        · rfl
      have hown : (if key ∈ collectionKeys then partLink key v else []) = partLink key v := by
        split
        · rfl
        · next hkey => exact (Decidable.not_not.mp fun hne => hkey (mem_collectionKeys_of_partLink hne)).symm
      simp only [hsplit]
      refine (List.flatMap_append_perm collectionKeys _ _).symm.trans ?_
      rw [flatMap_only (by decide), hown, List.flatMap_cons]
      exact (ih hdistinct.2).append_left _

/-- What binding adds to an object that is neither a collection nor a body is what it adds to the fields. -/
theorem added_object {r : Role} (hcollection : r ≠ .collection) (hbody : r ≠ .body) (fields : Fields) :
    r.added (.object fields) = fields.flatMap fun field => (r.next field.1).added field.2 := by
  cases r with
  | collection => exact absurd rfl hcollection
  | body => exact absurd rfl hbody
  | cases =>
      change caseFieldLinks fields = _
      rw [caseFieldLinks_eq_flatMap]
      rfl
  | branch =>
      change branchFieldLinks fields = _
      rw [branchFieldLinks_eq_flatMap]
      refine congrArg List.flatten (List.map_congr_left fun field _ => ?_)
      simp only [Role.next]
      split <;> rfl
  | links => simp [Role.added, Role.next]
  | other => simp [Role.added, Role.next]

theorem added_object_perm {r : Role} (hcollection : r ≠ .collection) {fields : Fields}
    (hdistinct : (Fields.names fields).Nodup) :
    (r.added (.object fields)).Perm (fields.flatMap fun field => (r.next field.1).added field.2) := by
  by_cases hbody : r = .body
  · subst hbody
    simp only [added_next_body]
    exact bodyLinks_perm hdistinct
  · rw [added_object hcollection hbody]

/-- Binding adds the links that are lacking. -/
theorem added_perm_lacking {r : Role} {v : Json} (hdistinct : v.isDistinct = true) :
    (r.added v).Perm ((lacking r v).map Prod.snd) := by
  induction v using Json.fieldInduction generalizing r with
  | other v h =>
      cases v with
      | object fields => cases h
      | _ => cases r <;> exact List.Perm.refl _
  | object fields ih =>
      rw [Json.isDistinct_object_iff] at hdistinct
      have hparts (s : String → Role) : (fields.flatMap fun field => (s field.1).added field.2).Perm
          ((fields.flatMap fun field => (lacking (s field.1) field.2).map (Prod.map (field.1 :: ·) id)).map
            Prod.snd) := by
        rw [List.map_flatMap]
        refine List.Perm.flatMap_left fields fun field hfield => ?_
        have hpart := ih field.1 field.2 hfield (r := s field.1) (hdistinct.2 field hfield)
        simpa [List.map_map, Function.comp_def] using hpart
      rw [lacking, lackingIn_eq_flatMap, List.map_append]
      by_cases hr : r = .collection
      · subst hr
        change (chainLinks none fields ++ linksBelow fields).Perm _
        rw [if_pos rfl, linksBelow_eq_flatMap, List.map_map]
        have hchain :
            (chainLinks none fields).map (Prod.snd ∘ fun l => (([] : List String), l)) = chainLinks none fields :=
          List.map_id _
        rw [hchain]
        exact (hparts fun _ => .body).append_left _
      · rw [if_neg hr, List.map_nil, List.nil_append]
        exact (added_object_perm hr hdistinct.1).trans (hparts r.next)

/-- To what lacks nothing, nothing is added. -/
theorem added_eq_nil {r : Role} {v : Json} (h : lacking r v = []) : r.added v = [] := by
  induction v using Json.fieldInduction generalizing r with
  | other v hv =>
      cases v with
      | object fields => cases hv
      | _ => cases r <;> rfl
  | object fields ih =>
      rw [lacking_object_eq_nil_iff] at h
      obtain ⟨hchain, hfields⟩ := h
      have hparts : ∀ field ∈ fields, (r.next field.1).added field.2 = [] :=
        fun field hfield => ih field.1 field.2 hfield (hfields field hfield)
      by_cases hcollection : r = .collection
      · subst hcollection
        change chainLinks none fields ++ linksBelow fields = []
        rw [hchain rfl, linksBelow_eq_flatMap, List.nil_append, List.flatMap_eq_nil_iff]
        exact hparts
      · by_cases hbody : r = .body
        · subst hbody
          change bodyLinks (.object fields) = []
          rw [bodyLinks, List.flatMap_eq_nil_iff]
          intro key _
          rw [lookup_partLinks]
          cases hget : Fields.get? fields key with
          | none => rfl
          | some v =>
              rw [Option.map_some, Option.getD_some, ← added_next_body]
              exact hparts (key, v) (Fields.mem_of_get? hget)
        · rw [added_object hcollection hbody, List.flatMap_eq_nil_iff]
          exact hparts

/-- Nothing is added to a collection that was bound. -/
theorem links_bind (entries : Fields) : links (bind entries) = [] :=
  added_eq_nil (lacking_bound .collection (.object entries))

/-- Nothing is added exactly if nothing is changed. -/
theorem links_eq_nil_iff {entries : Fields} (hdistinct : (Json.object entries).isDistinct = true) :
    links entries = [] ↔ bind entries = entries := by
  constructor
  · intro h
    have hperm : (links entries).Perm ((lacking .collection (.object entries)).map Prod.snd) :=
      added_perm_lacking (r := .collection) hdistinct
    rw [h, List.nil_perm, List.map_eq_nil_iff] at hperm
    exact Json.object.inj (bound_eq_self hperm)
  · intro h
    rw [← h]
    exact links_bind entries

/-- A link that is lacking is one between two entries of a collection that binding comes to. -/
theorem mem_lacking_iff {r : Role} {v : Json} (hdistinct : v.isDistinct = true) (place : List String) (l : Link) :
    (place, l) ∈ lacking r v ↔
      r.along place = .collection ∧ ∃ entries body, v.objectAt? place = some entries ∧
        Fields.Follows entries l.runAfter l.action (.object body) ∧ l.runAfter ∉ Fields.names (linksOf body) := by
  induction place generalizing r v with
  | nil =>
      cases v with
      | object fields =>
          rw [Json.isDistinct_object_iff] at hdistinct
          have hfields : (Json.object fields).objectAt? [] = some fields := rfl
          have hbelow : ([], l) ∉ lackingIn r fields := by
            rw [lackingIn_eq_flatMap]
            simp
          rw [lacking, List.mem_append, or_iff_left hbelow, Role.along_nil, hfields]
          split
          · next hr =>
              have hpairs :
                  ([], l) ∈ (chainLinks none fields).map (([] : List String), ·) ↔ l ∈ chainLinks none fields := by
                simp
              rw [hpairs, mem_chainLinks_iff_follows hdistinct.1]
              simp [hr]
          · next hr => simp [hr]
      | _ => simp [lacking, Json.objectAt?, Json.asObject?]
  | cons name rest ih =>
      cases v with
      | object fields =>
          rw [Json.isDistinct_object_iff] at hdistinct
          have hparts : (name :: rest, l) ∈ lacking r (.object fields) ↔
              ∃ w, Fields.get? fields name = some w ∧ (rest, l) ∈ lacking (r.next name) w := by
            rw [lacking, List.mem_append, or_iff_right (by split <;> simp), lackingIn_eq_flatMap, List.mem_flatMap]
            constructor
            · rintro ⟨⟨key, w⟩, hfield, hmem⟩
              obtain ⟨⟨place, l'⟩, hlacking, heq⟩ := List.mem_map.mp hmem
              cases heq
              exact ⟨w, Fields.get?_of_mem hdistinct.1 hfield, hlacking⟩
            · rintro ⟨w, hw, hlacking⟩
              exact ⟨(name, w), Fields.mem_of_get? hw, List.mem_map.mpr ⟨(rest, l), hlacking, rfl⟩⟩
          have hplace : (Json.object fields).objectAt? (name :: rest) =
              (Fields.get? fields name).bind (Json.objectAt? rest) := Json.objectAt?_cons name rest _
          rw [hparts, hplace, Role.along_cons]
          cases hget : Fields.get? fields name with
          | none => simp
          | some w =>
              have hw := ih (r := r.next name) (hdistinct.2 (name, w) (Fields.mem_of_get? hget))
              simp only [Option.some.injEq, Option.bind_some, exists_eq_left', hw]
      | _ => simp [lacking, Json.objectAt?, Json.at?, Json.field?]

theorem nodup_lacking {r : Role} {v : Json} (hdistinct : v.isDistinct = true) : (lacking r v).Nodup := by
  induction v using Json.fieldInduction generalizing r with
  | other v h =>
      cases v with
      | object fields => cases h
      | _ => exact List.nodup_nil
  | object fields ih =>
      rw [Json.isDistinct_object_iff] at hdistinct
      have hchain : (chainLinks none fields).Nodup :=
        .of_map Link.action (hdistinct.1.sublist (actions_chainLinks none fields))
      rw [lacking, lackingIn_eq_flatMap, List.nodup_append]
      refine ⟨?_, ?_, ?_⟩
      · split
        · exact hchain.map fun l l' heq => (Prod.mk.inj heq).2
        · exact List.nodup_nil
      · refine List.nodup_flatMap.mpr ⟨fun field hfield => ?_, ?_⟩
        · refine (ih field.1 field.2 hfield (hdistinct.2 field hfield)).map fun p q heq => ?_
          simpa [Prod.ext_iff] using heq
        · have hnames : fields.Pairwise fun field field' => field.1 ≠ field'.1 := List.pairwise_map.mp hdistinct.1
          refine hnames.imp fun hne p hp hp' => ?_
          obtain ⟨_, _, rfl⟩ := List.mem_map.mp hp
          obtain ⟨_, _, heq⟩ := List.mem_map.mp hp'
          exact hne (List.cons.inj (Prod.mk.inj heq).1).1.symm
      · intro p hp q hq heq
        subst heq
        obtain ⟨field, _, hq⟩ := List.mem_flatMap.mp hq
        obtain ⟨_, _, rfl⟩ := List.mem_map.mp hq
        split at hp
        · obtain ⟨_, _, heq⟩ := List.mem_map.mp hp
          cases (Prod.mk.inj heq).1
        · cases hp

/-- Two entries next to each other in a visited collection, with an object for the second body, of which the second has
no link to the first. -/
def Unlinked (document : Json) (start : List String) (p : List String × Link) : Prop :=
  ∃ body, Successor document start p.1 p.2.runAfter p.2.action body ∧ p.2.runAfter ∉ Fields.names (linksOf body)

/-- There are as many such entries as links are added. -/
theorem encard_unlinked {document : Json} {start : List String} {entries : Fields}
    (hstart : document.objectAt? start = some entries) (hdistinct : (Json.object entries).isDistinct = true) :
    {p | Unlinked document start p}.encard = (links entries).length := by
  let pairs := (lacking .collection (.object entries)).map (Prod.map (start ++ ·) id)
  have hmem : {p | Unlinked document start p} = {p | p ∈ pairs} := by
    ext ⟨place, l⟩
    simp only [Set.mem_ofPred_eq, pairs, List.mem_map]
    constructor
    · rintro ⟨body, ⟨hvisited, collection, hcollection, hfollows⟩, habsent⟩
      obtain ⟨rest, rfl, hrest⟩ := hvisited.exists_along
      rw [Json.objectAt?_append, (Json.objectAt?_eq_some_iff _ _ _).mp hstart] at hcollection
      refine ⟨(rest, l), (mem_lacking_iff hdistinct rest l).mpr ?_, rfl⟩
      exact ⟨hrest, collection, body, hcollection, hfollows, habsent⟩
    · rintro ⟨⟨rest, l'⟩, hlacking, heq⟩
      cases heq
      obtain ⟨hrest, collection, body, hcollection, hfollows, habsent⟩ :=
        (mem_lacking_iff hdistinct rest l').mp hlacking
      have hplace : document.objectAt? (start ++ rest) = some collection := by
        rw [Json.objectAt?_append, (Json.objectAt?_eq_some_iff _ _ _).mp hstart]
        exact hcollection
      exact ⟨body, ⟨.of_along start hrest (by rw [hplace]; rfl), collection, hplace, hfollows⟩, habsent⟩
  have hnodup : pairs.Nodup := (nodup_lacking hdistinct).map fun p q heq => by simpa [Prod.ext_iff] using heq
  have hlength : pairs.length = (links entries).length := by
    have hperm := (added_perm_lacking (r := .collection) hdistinct).length_eq
    rw [List.length_map] at hperm
    rw [List.length_map, ← hperm]
    rfl
  rw [hmem, ← List.coe_toFinset, Set.encard_coe_eq_coe_finsetCard, List.toFinset_card_of_nodup hnodup, hlength]

theorem result_after_logging (links : List Link) (n : Nat) (b : Bench) :
    ((do
      links.forM fun l => Build.debug "flowsmith.assembly.binder" "action_bound"
        [("action", .string l.action), ("run_after", .string l.runAfter)]
      return n : Build Nat).run b).1 = .ok n := by
  induction links generalizing b with
  | nil => rfl
  | cons l rest ih => exact ih _

/-- Binding never fails, and gives the number of the links. -/
theorem bindActions_run (s : Scope) (b : Bench) :
    ∃ c, (Build.bindActions s).run b = (.ok (links (s.entries b.document)).length, c) ∧
      c.document = documentAfter s b :=
  ⟨((Build.bindActions s).run b).2, Prod.ext (result_after_logging _ _ _) rfl, rfl⟩

/-- The bench after a scope was bound so many times. -/
def afterBindings (s : Scope) (times : Nat) (b : Bench) : Bench :=
  (fun c => ((Build.bindActions s).run c).2)^[times] b

/-- A collection that was bound and is bound again. -/
theorem entries_documentAfter {s : Scope} {b : Bench} {entries : Fields}
    (hscope : b.document.objectAt? s.location = some entries) : s.entries (documentAfter s b) = bind entries := by
  rw [Scope.entries, objectAt?_documentAfter hscope .start, hscope]
  rfl

theorem documentAfter_of_bound {s : Scope} {b : Bench} {entries : Fields}
    (hscope : b.document.objectAt? s.location = some entries) (hbound : bind entries = entries) :
    documentAfter s b = b.document := by
  rw [documentAfter_eq, Scope.entries, hscope, Option.getD_some, hbound]
  exact Json.modifyAt_const ((Json.objectAt?_eq_some_iff _ _ _).mp hscope)

/-- Binding a collection in which no object has two fields of one name gives the number of the pairs of entries, next to
each other in a visited collection, of which the second has an object for its body and no link to the first. This number
is zero exactly if the document is not changed. However often the scope is bound again, that gives zero each time, and
the document stays what the first binding made it. -/
theorem binding_idempotent (s : Scope) (b : Bench) {entries : Fields}
    (hscope : b.document.objectAt? s.location = some entries)
    (hdistinct : (Json.object entries).isDistinct = true) :
    ∃ n c, (Build.bindActions s).run b = (.ok n, c) ∧
      {p | Unlinked b.document s.location p}.encard = n ∧
      (n = 0 ↔ c.document = b.document) ∧
      ∀ times, ∃ d, (Build.bindActions s).run (afterBindings s times c) = (.ok 0, d) ∧ d.document = c.document := by
  have hentries : s.entries b.document = entries := by rw [Scope.entries, hscope, Option.getD_some]
  obtain ⟨c, hrun, hafter⟩ := bindActions_run s b
  rw [hentries] at hrun
  have hbound : c.document.objectAt? s.location = some (bind entries) := by
    rw [hafter, objectAt?_documentAfter hscope .start, hscope]
    rfl
  refine ⟨_, c, hrun, encard_unlinked hscope hdistinct, ?_, fun times => ?_⟩
  · rw [List.length_eq_zero_iff, links_eq_nil_iff hdistinct, hafter]
    constructor
    · exact documentAfter_of_bound hscope
    · intro hsame
      have hagain := entries_documentAfter hscope
      rw [hsame, hentries] at hagain
      exact hagain.symm
  · have hstays : (afterBindings s times c).document = c.document := by
      induction times with
      | zero => rfl
      | succ times ih =>
          rw [afterBindings, Function.iterate_succ_apply']
          change documentAfter s (afterBindings s times c) = c.document
          rw [documentAfter_of_bound (by rw [ih]; exact hbound) (bind_bind entries), ih]
    obtain ⟨d, hagain, hdocument⟩ := bindActions_run s (afterBindings s times c)
    have hobject : (afterBindings s times c).document.objectAt? s.location = some (bind entries) := by
      rw [hstays]
      exact hbound
    refine ⟨d, ?_, ?_⟩
    · rw [hagain, Scope.entries, hobject, Option.getD_some, links_bind]
      rfl
    · rw [hdocument, documentAfter_of_bound hobject (bind_bind entries), hstays]

/-- The bodies of the malformed collection lack two links, and the second time none. -/
theorem binding_idempotent_malformed :
    (Json.object malformedActions).isDistinct = true ∧
    ∃ n c, (Build.bindActions ⟨[], ["actions"]⟩).run malformedBench = (.ok n, c) ∧ n = 2 ∧
      {p | Unlinked malformedBench.document ["actions"] p}.encard = n ∧ c.document ≠ malformedBench.document ∧
      ∃ d, (Build.bindActions ⟨[], ["actions"]⟩).run (afterBindings ⟨[], ["actions"]⟩ 3 c) = (.ok 0, d) ∧
        d.document = c.document := by
  have hdistinct : (Json.object malformedActions).isDistinct = true := by decide
  have hscope : malformedBench.document.objectAt? ["actions"] = some malformedActions := rfl
  obtain ⟨n, c, hrun, hcount, hzero, hagain⟩ :=
    binding_idempotent ⟨[], ["actions"]⟩ malformedBench hscope hdistinct
  have hn : n = 2 := by
    obtain ⟨_, hrun', _⟩ := bindActions_run ⟨[], ["actions"]⟩ malformedBench
    cases hrun.symm.trans hrun'
    decide
  refine ⟨hdistinct, n, c, hrun, hn, hcount, fun hsame => ?_, hagain 3⟩
  rw [hzero.mpr hsame] at hn
  cases hn

end Binding

end WorkflowForge
