import WorkflowForge.Data.Checked
import WorkflowForge.Document.Scope
import WorkflowForge.Proofs.Json.Growth

/-!
Scopes as views of one document. To resolve a path is to resolve its parts one after the other, and an entry that is
added through one scope shows through every other: the scope itself has it behind its old entries, every other scope is
still where it was, and no value of the document changes but those that hold the new entry, and the entry.
-/

namespace WorkflowForge

namespace Json

/-- The value that steps through objects and arrays lead to. -/
def reach? : List Step → Json → Option Json
  | [], v => some v
  | .key name :: rest, .object fields => (Fields.get? fields name).bind (reach? rest)
  | .index i :: rest, .array items => if i < 0 then none else items[i.toNat]?.bind (reach? rest)
  | _ :: _, _ => none

/-- The steps through objects to a place. -/
def steps (place : List String) : List Step := place.map Step.key

theorem isPrefix_of_steps {place other : List String} (h : steps place <+: steps other) : place <+: other := by
  obtain ⟨start, hstart, heq⟩ := List.prefix_map_iff.mp h
  rwa [(List.map_inj_right fun _ _ => Step.key.inj).mp heq]

theorem reach?_object_key (name : String) (rest : List Step) (fields : Fields) :
    (Json.object fields).reach? (.key name :: rest) = (Fields.get? fields name).bind (reach? rest) := rfl

theorem at?_eq_reach? (place : List String) (v : Json) : v.at? place = v.reach? (steps place) := by
  induction place generalizing v with
  | nil => rfl
  | cons name rest ih =>
      cases v with
      | object fields =>
          rw [at?_cons, steps, List.map_cons, reach?_object_key, field?]
          exact congrArg _ (funext ih)
      | _ => rfl

/-- A field that is added behind the others changes no value but the object and what is under the new name. -/
theorem reach?_append_field {fields : Fields} {name : String} (value : Json) {other : List Step} (hother : other ≠ [])
    (hname : ¬ [Step.key name] <+: other) :
    (Json.object (fields ++ [(name, value)])).reach? other = (Json.object fields).reach? other := by
  cases other with
  | nil => exact absurd rfl hother
  | cons step rest =>
      cases step with
      | index i => rfl
      | key first =>
          have hne : first ≠ name := by
            rintro rfl
            exact hname (List.prefix_append [Step.key first] rest)
          rw [reach?_object_key, reach?_object_key]
          by_cases hmem : first ∈ Fields.names fields
          · rw [Fields.get?_append_of_mem _ hmem]
          · rw [Fields.get?_append_of_not_mem _ hmem, Fields.get?_cons, if_neg hne, Fields.get?_nil,
              (Fields.get?_eq_none_iff fields first).mpr hmem]

/-- A field that is added at a place changes no values but those on the way to the place and what is under its name. -/
theorem reach?_addAt {place : List String} {name : String} (value : Json) {other : List Step} (v : Json)
    (habove : ¬ other <+: steps place) (hbelow : ¬ steps (place ++ [name]) <+: other) :
    (v.addAt place name value).reach? other = v.reach? other := by
  induction place generalizing v other with
  | nil =>
      have hother : other ≠ [] := by
        rintro rfl
        exact habove List.nil_prefix
      cases v with
      | object fields => exact reach?_append_field value hother hbelow
      | _ => rfl
  | cons first more ih =>
      cases other with
      | nil => exact absurd List.nil_prefix habove
      | cons step rest =>
          cases v with
          | object fields =>
              have hadded : (Json.object fields).addAt (first :: more) name value =
                  .object (Fields.modify first (fun w => w.addAt more name value) fields) := rfl
              rw [hadded]
              cases step with
              | index i => rfl
              | key key =>
                  rw [reach?_object_key, reach?_object_key]
                  by_cases heq : key = first
                  · subst heq
                    rw [Fields.get?_modify_self]
                    cases Fields.get? fields key with
                    | none => rfl
                    | some w =>
                        exact ih w (fun h => habove (List.cons_prefix_cons.mpr ⟨rfl, h⟩))
                          (fun h => hbelow (List.cons_prefix_cons.mpr ⟨rfl, h⟩))
                  · rw [Fields.get?_modify_of_ne _ fields heq]
          | _ => rfl

theorem objectAt?_addAt {place : List String} {name : String} {value v : Json} {fields : Fields}
    (h : v.objectAt? place = some fields) :
    (v.addAt place name value).objectAt? place = some (fields ++ [(name, value)]) := by
  rw [objectAt?_eq_some_iff] at h ⊢
  rw [addAt, at?_modifyAt, h]
  rfl

/-- A field with a new name leaves the names of every other object. -/
theorem names_objectAt?_addAt {place other : List String} {name : String} (value : Json) {v : Json} {fields : Fields}
    (hfree : v.at? (place ++ [name]) = none) (hne : other ≠ place) (h : v.objectAt? other = some fields) :
    ∃ grown, (v.addAt place name value).objectAt? other = some grown ∧ Fields.names grown = Fields.names fields := by
  by_cases habove : other <+: place
  · obtain ⟨grown, hgrown, _⟩ := (Grows.addAt v place name value).objectAt? h
    have hbelow : ¬ place <+: other := fun hbelow => hne (habove.eq_of_length_le hbelow.length_le)
    have houtline : (v.addAt place name value).outlineAt? other = v.outlineAt? other := outlineAt?_modifyAt _ v hbelow
    rw [outlineAt?_of_objectAt? hgrown, outlineAt?_of_objectAt? h] at houtline
    exact ⟨grown, hgrown, Sum.inr.inj (Option.some.inj houtline)⟩
  · -- nothing was under the new name, so the object is not in what is added
    have hbelow : ¬ place ++ [name] <+: other := by
      rintro ⟨rest, rfl⟩
      rw [objectAt?_append, hfree] at h
      cases h
    refine ⟨fields, ?_, rfl⟩
    rw [objectAt?_eq_some_iff, at?_eq_reach?] at h ⊢
    rw [reach?_addAt value v (fun hsteps => habove (isPrefix_of_steps hsteps))
      fun hsteps => hbelow (isPrefix_of_steps hsteps), h]

end Json

namespace Scope

/-- A scope is in a document if what it shows is an object there. -/
def IsIn (s : Scope) (document : Json) : Prop := (document.objectAt? s.location).isSome

instance (s : Scope) (document : Json) : Decidable (s.IsIn document) :=
  inferInstanceAs (Decidable ((document.objectAt? s.location).isSome = true))

theorem resolve_eq_some_iff {s t : Scope} {document : Json} {segments : List String} :
    s.resolve document segments = some t ↔
      (segments = [] ∨ (document.objectAt? (s.location ++ segments)).isSome) ∧
        t = { s with location := s.location ++ segments } := by
  unfold resolve
  dsimp only
  rw [← List.isEmpty_iff, ← Bool.or_eq_true]
  split
  · next hthere => exact ⟨fun h => ⟨hthere, (Option.some.inj h).symm⟩, fun h => h.2 ▸ rfl⟩
  · next hthere => exact ⟨nofun, fun h => absurd h.1 hthere⟩

variable {s t : Scope} {document : Json} {segments : List String}

/-- What is resolved from a scope of a document is in the document. -/
theorem isIn_of_resolve (hs : s.IsIn document) (h : s.resolve document segments = some t) : t.IsIn document := by
  obtain ⟨rfl | hthere, rfl⟩ := resolve_eq_some_iff.mp h
  · rw [IsIn, List.append_nil]
    exact hs
  · exact hthere

theorem resolve_append (s : Scope) (document : Json) (first second : List String) :
    s.resolve document (first ++ second) = (s.resolve document first).bind fun t => t.resolve document second := by
  refine Option.ext fun u => ?_
  rw [Option.bind_eq_some_iff]
  constructor
  · intro h
    obtain ⟨hthere, rfl⟩ := resolve_eq_some_iff.mp h
    refine ⟨{ s with location := s.location ++ first }, resolve_eq_some_iff.mpr ⟨?_, rfl⟩,
      resolve_eq_some_iff.mpr ⟨?_, by rw [List.append_assoc]⟩⟩
    · rcases hthere with hempty | hthere
      · exact .inl (List.append_eq_nil_iff.mp hempty).1
      · rw [← List.append_assoc] at hthere
        exact .inr (Json.objectAt?_isSome_of_append hthere)
    · rw [List.append_assoc]
      exact hthere.imp_left fun hempty => (List.append_eq_nil_iff.mp hempty).2
  · rintro ⟨t, hfirst, hsecond⟩
    obtain ⟨hthere, rfl⟩ := resolve_eq_some_iff.mp hfirst
    obtain ⟨hthere', rfl⟩ := resolve_eq_some_iff.mp hsecond
    refine resolve_eq_some_iff.mpr ⟨?_, by rw [List.append_assoc]⟩
    rcases hthere' with rfl | hthere'
    · rw [List.append_nil]
      exact hthere
    · rw [List.append_assoc] at hthere'
      exact .inr hthere'

theorem entries_of_objectAt? {fields : Fields} (h : document.objectAt? s.location = some fields) :
    s.entries document = fields := by
  rw [entries, h, Option.getD_some]

theorem add_of_has {name : String} (h : s.has document name = true) (body : Json) :
    s.add document name body = (false, document) := by
  rw [add, if_pos h]

theorem add_of_not_has {name : String} (h : ¬ s.has document name = true) (body : Json) :
    s.add document name body = (true, document.addAt s.location name body) := by
  rw [add, if_neg h]

/-- A scope that is in a document is in what the document has grown into, and so is all that it resolves to. -/
theorem resolve_of_grows {grown : Json} (hgrows : document.Grows grown) (h : s.resolve document segments = some t) :
    s.resolve grown segments = some t := by
  obtain ⟨hthere, ht⟩ := resolve_eq_some_iff.mp h
  refine resolve_eq_some_iff.mpr ⟨hthere.imp_right fun hthere => ?_, ht⟩
  obtain ⟨fields, hfields⟩ := Option.isSome_iff_exists.mp hthere
  obtain ⟨new, hnew, _⟩ := hgrows.objectAt? hfields
  rw [hnew]
  rfl

/-- To resolve a path is to resolve its parts one after the other. What a scope of a document resolves to shows the
object at its place, under its path, and takes an entry unless the name is taken. An entry that is taken stands behind
the old ones, and all scopes resolve as before to scopes that are in the document; those elsewhere show the names that
they showed, and all values are as they were but those on the way to the scope and what is under the new name. -/
theorem scopes_view_one_document (s : Scope) (document : Json) (first second : List String) :
    (s.resolve document (first ++ second) =
      (s.resolve document first).bind fun t => t.resolve document second) ∧
    (s.IsIn document → ∀ t, s.resolve document first = some t →
      t.path = s.path ++ first ∧ document.at? t.location = some (.object (t.entries document)) ∧
      ∀ name body,
        (t.has document name = true → t.add document name body = (false, document)) ∧
        (t.has document name = false → ∃ after, t.add document name body = (true, after) ∧
          s.resolve after first = some t ∧ t.entries after = t.entries document ++ [(name, body)] ∧
          (∀ u : Scope, u.IsIn document → u.IsIn after ∧
            (∀ segments v, u.resolve document segments = some v → u.resolve after segments = some v) ∧
            (u.location ≠ t.location → u.names after = u.names document)) ∧
          ∀ other, ¬ other <+: Json.steps t.location → ¬ Json.steps (t.location ++ [name]) <+: other →
            after.reach? other = document.reach? other)) := by
  refine ⟨s.resolve_append document first second, fun hs t ht => ?_⟩
  obtain ⟨fields, hfields⟩ := Option.isSome_iff_exists.mp (isIn_of_resolve hs ht)
  have hentries := entries_of_objectAt? hfields
  refine ⟨?_, ?_, fun name body => ⟨fun h => add_of_has h body, fun h => ?_⟩⟩
  · rw [(resolve_eq_some_iff.mp ht).2, path, path, List.append_assoc]
  · rw [hentries]
    exact (Json.objectAt?_eq_some_iff _ _ _).mp hfields
  · have hgrows := Json.Grows.addAt document t.location name body
    refine ⟨_, add_of_not_has (by rw [h]; exact Bool.false_ne_true) body, resolve_of_grows hgrows ht, ?_, ?_, ?_⟩
    · rw [hentries]
      exact entries_of_objectAt? (Json.objectAt?_addAt hfields)
    · intro u hu
      obtain ⟨old, hold⟩ := Option.isSome_iff_exists.mp hu
      obtain ⟨new, hnew, _⟩ := hgrows.objectAt? hold
      refine ⟨Option.isSome_iff_exists.mpr ⟨new, hnew⟩, fun segments v hv => resolve_of_grows hgrows hv, fun hne => ?_⟩
      have hfree : document.at? (t.location ++ [name]) = none := by
        rw [Json.at?_snoc hfields, Fields.get?_eq_none_iff, ← Fields.has_iff, ← hentries]
        exact Bool.not_eq_true _ ▸ h
      obtain ⟨grown, hgrown, hnames⟩ := Json.names_objectAt?_addAt body hfree hne hold
      rw [names, names, entries_of_objectAt? hgrown, entries_of_objectAt? hold, hnames]
    · exact fun other habove hbelow => Json.reach?_addAt body document habove hbelow

/-- A document with a collection in an action, and a list in that. -/
def nestedDocument : Json :=
  .object [("definition", .object [("triggers", .object []),
    ("actions", .object [("S", .object [("actions", .object [("X", .array [.null, .object [("a", .int 2)]])])])])])]

/-- An entry that comes into the inner collection leaves the outer one and what is in the list. -/
theorem scopes_view_one_document_nested :
    ∃ s t after, Document.actions? nestedDocument = some s ∧ s.resolve nestedDocument ["S", "actions"] = some t ∧
      t.add nestedDocument "X" .null = (false, nestedDocument) ∧ t.add nestedDocument "Y" .null = (true, after) ∧
      t.names after = ["X", "Y"] ∧ s.names after = ["S"] ∧
      after.reach? (Json.steps t.location ++ [.key "X", .index 1, .key "a"]) = some (.int 2) := by
  let s : Scope := ⟨[], ["definition", "actions"]⟩
  let t : Scope := ⟨[], ["definition", "actions", "S", "actions"]⟩
  obtain ⟨_, hview⟩ := scopes_view_one_document s nestedDocument ["S", "actions"] []
  obtain ⟨_, _, hadd⟩ := hview (by decide) t rfl
  obtain ⟨after, hadded, _, hentries, hscopes, hvalues⟩ := (hadd "Y" .null).2 (by decide)
  obtain ⟨_, _, hnames⟩ := hscopes s (by decide)
  refine ⟨s, t, after, rfl, rfl, (hadd "X" .null).1 (by decide), hadded, ?_, hnames (by decide), ?_⟩
  · rw [names, hentries]
    rfl
  · exact hvalues _ (by decide) (by decide)

end Scope

end WorkflowForge
