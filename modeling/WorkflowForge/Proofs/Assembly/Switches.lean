import WorkflowForge.Proofs.Assembly.DeclarationOrder
import WorkflowForge.Proofs.Assembly.Surfacing

/-!
Decision branches fill one switch. Each branch looks for the switch anew, after earlier branches have changed it; but
whatever is assembled below the cases and the default leaves the type of the switch as it is, and its cases and its
default where they are. So there is still one switch, and it is still well-formed. A branch adds the case of its name,
if there is none yet, and what it holds comes into the actions of that case; what an Else branch holds comes into the
actions of the default.
-/

namespace WorkflowForge

namespace Fields

/-- What a condition on bodies picks out keeps its names under a change that the condition does not see. -/
theorem names_filter_modify (p : Json → Bool) (name : String) (f : Json → Json) (hf : ∀ v, p (f v) = p v)
    (fields : Fields) :
    names ((modify name f fields).filter fun entry => p entry.2) = names (fields.filter fun entry => p entry.2) := by
  induction fields with
  | nil => rfl
  | cons field rest ih =>
      obtain ⟨key, v⟩ := field
      by_cases hkey : key = name
      · simp only [modify, hkey, beq_self_eq_true, if_true, List.filter_cons, hf]
        split <;> rfl
      · simp only [modify, beq_iff_eq, hkey, if_false, List.filter_cons]
        split
        · rw [names_cons, names_cons, ih]
        · exact ih

/-- A name that is offered is taken or comes in. -/
theorem mem_names_free {taken : List String} {offers : Fields} {name : String} (h : name ∈ names offers) :
    name ∈ taken ∨ name ∈ names (free taken offers) := by
  induction offers generalizing taken with
  | nil => cases h
  | cons field rest ih =>
      obtain ⟨key, body⟩ := field
      rw [free]
      rcases List.mem_cons.mp h with rfl | hrest
      · split
        · next hmem => exact .inl hmem
        · exact .inr List.mem_cons_self
      · split
        · exact ih hrest
        · have hlater : name ∈ taken ++ [key] ∨ name ∈ names (free (taken ++ [key]) rest) := ih hrest
          rcases hlater with hmem | hmem
          · rcases List.mem_append.mp hmem with hold | hnew
            · exact .inl hold
            · rw [List.mem_singleton.mp hnew]
              exact .inr List.mem_cons_self
          · exact .inr (List.mem_cons_of_mem _ hmem)

/-- The actions of an entry. -/
def actionsIn? (fields : Fields) (name : String) : Option Fields := (get? fields name).bind (·.objectField? "actions")

theorem actionsIn?_eq (fields : Fields) (name : String) :
    actionsIn? fields name = (Json.object fields).objectAt? [name, "actions"] := by
  rw [Json.objectAt?_cons]
  refine congrArg _ (funext fun v => ?_)
  rw [Json.objectAt?_cons]
  rfl

theorem actionsIn?_append (first second : Fields) (name : String) :
    actionsIn? (first ++ second) name =
      if name ∈ names first then actionsIn? first name else actionsIn? second name := by
  unfold actionsIn?
  split
  · next h => rw [get?_append_of_mem _ h]
  · next h => rw [get?_append_of_not_mem _ h]

theorem mem_names_of_actionsIn? {fields actions : Fields} {name : String} (h : actionsIn? fields name = some actions) :
    name ∈ names fields := by
  obtain ⟨v, hv, _⟩ := Option.bind_eq_some_iff.mp h
  exact mem_names_of_get? hv

end Fields

namespace Scope

/-- Where the cases of a switch are. -/
def casesAt (s : Scope) (switch : String) : List String := s.location ++ [switch, "cases"]

/-- Where the actions of a case of a switch are, or those of its default. -/
def branchAt (s : Scope) (switch : String) : Option String → List String
  | some case => s.location ++ [switch, "cases", case, "actions"]
  | none => s.location ++ [switch, "default", "actions"]

/-- A scope has one entry that is a switch. Its cases all have actions, and so has its default. -/
structure HoldsSwitch (s : Scope) (document : Json) (switch : String) (cases otherwise : Fields) : Prop where
  only : Fields.names (s.ofType document "Switch") = [switch]
  cases_eq : document.objectAt? (s.casesAt switch) = some cases
  each : ∀ case ∈ Fields.names cases, (Fields.actionsIn? cases case).isSome
  otherwise_eq : document.objectAt? (s.branchAt switch none) = some otherwise

variable {s : Scope} {switch : String}

theorem HoldsSwitch.exists_body {document : Json} {cases otherwise : Fields}
    (h : s.HoldsSwitch document switch cases otherwise) : ∃ body, s.ofType document "Switch" = [(switch, body)] := by
  have honly := h.only
  rcases hentries : s.ofType document "Switch" with _ | ⟨⟨name, body⟩, _ | ⟨second, more⟩⟩
  · rw [hentries] at honly
    cases honly
  · rw [hentries] at honly
    cases honly
    exact ⟨body, rfl⟩
  · rw [hentries] at honly
    cases honly

theorem objectAt?_branchAt {document : Json} {cases : Fields} (h : document.objectAt? (s.casesAt switch) = some cases)
    (case : String) : document.objectAt? (s.branchAt switch (some case)) = Fields.actionsIn? cases case := by
  have hplace : s.branchAt switch (some case) = s.casesAt switch ++ [case, "actions"] := by simp [branchAt, casesAt]
  rw [hplace, Json.objectAt?_append, (Json.objectAt?_eq_some_iff _ _ _).mp h, Option.bind_some, Fields.actionsIn?_eq]

theorem not_branchAt_prefix {target other : Option String} (h : other ≠ target) :
    ¬ s.branchAt switch target <+: s.branchAt switch other := by
  cases target with
  | none => cases other <;> simp_all [branchAt]
  | some case =>
      cases other with
      | none => simp [branchAt]
      | some case' =>
          have hne : case ≠ case' := fun heq => h (by rw [heq])
          simp [branchAt, hne]

theorem not_branchAt_prefix_casesAt (target : Option String) : ¬ s.branchAt switch target <+: s.casesAt switch := by
  intro h
  have hle := h.length_le
  cases target <;> simp [branchAt, casesAt] at hle

theorem not_branchAt_prefix_location (target : Option String) : ¬ s.branchAt switch target <+: s.location := by
  cases target with
  | none => exact not_append_prefix_self (by simp)
  | some case => exact not_append_prefix_self (by simp)

/-- A change below an entry that leaves its type alone leaves the entries of a type. -/
theorem names_ofType_modifyAt (document : Json) (type name key : String) (rest : List String) (f : Json → Json)
    (hkey : key ≠ "type") :
    Fields.names (s.ofType (document.modifyAt (s.location ++ name :: key :: rest) f) type) =
      Fields.names (s.ofType document type) := by
  unfold ofType entries
  rw [Json.modifyAt_append, Json.objectAt?, Json.at?_modifyAt, Json.objectAt?]
  cases document.at? s.location with
  | none => rfl
  | some v =>
      cases v with
      | object fields =>
          have hsame (v : Json) : (Json.modifyAt (key :: rest) f v).field? "type" = v.field? "type" := by
            cases v with
            | object inner => exact Fields.get?_modify_of_ne _ inner hkey.symm
            | _ => rfl
          refine Fields.names_filter_modify (fun v => (v.field? "type").bind Json.asString? == some type) name _
            (fun v => ?_) fields
          rw [hsame]
      | _ => rfl

end Scope

/-- Moves below an entry that leave its type alone leave the entries of a type. -/
theorem Moves.names_ofType {w : Workshop} {s : Scope} {type name key : String} {rest : List String} {b c : Bench}
    (h : Moves w (s.location ++ name :: key :: rest) b c) (hkey : key ≠ "type") :
    Fields.names (s.ofType c.document type) = Fields.names (s.ofType b.document type) := by
  refine Moves.preserves
    (R := fun b c => Fields.names (s.ofType c.document type) = Fields.names (s.ofType b.document type)) (fun _ => rfl)
    (fun hfirst hsecond => hsecond.trans hfirst) (fun hmove => ?_) h
  cases hmove with
  | add t hwithin label body =>
      unfold Scope.add
      split
      · rfl
      · obtain ⟨more, hmore⟩ := hwithin
        have hplace : t.location = s.location ++ name :: key :: (rest ++ more) := by rw [← hmore]; simp
        unfold Json.addAt
        rw [hplace]
        exact Scope.names_ofType_modifyAt _ type name key _ _ hkey
  | _ => rfl

namespace Arrival

/-- The action by which a container is converted. -/
def firstAction? (w : Workshop) (t : Arrival) : Option (String × Json) :=
  (Build.containerPayload w t.item t.bench).bind Payload.firstAction?

/-- The case that a branch is. The Else branch is none. -/
def case? (w : Workshop) (t : Arrival) : Option (String × Json) :=
  if t.item.name = "Else" then none else t.firstAction? w

/-- What comes first in a branch, and what its children bring. -/
def filling (w : Workshop) (parent : Scope) (t : Arrival) : Fields :=
  match (Build.opening w t.item parent).run t.bench with
  | (.ok ⟨_, some scope⟩, o) =>
    Build.contents w t.item (fun scope c => Build.surfaceIn w t.place scope 0 c t.activity.children) scope o
  | _ => []

/-- What the branches of a case hold, in their order, or those that are no case. -/
def fillings (w : Workshop) (parent : Scope) (target : Option String) (ts : List Arrival) : Fields :=
  (ts.filter fun t => (t.case? w).map Prod.fst = target).flatMap (filling w parent)

/-- A decision branch whose payload gives no path and begins with an action that has actions in it. -/
structure IsBranch (w : Workshop) (t : Arrival) : Prop where
  container : t.activity.isContainer = true
  type_eq : t.activity.element.type = "DecisionBranch"
  payload : ∃ p first, Build.containerPayload w t.item t.bench = some p ∧ p.actionPath = none ∧
    p.firstAction? = some first ∧ (first.2.objectField? "actions").isSome

instance (w : Workshop) (t : Arrival) : Decidable (t.IsBranch w) :=
  decidable_of_iff (t.activity.isContainer = true ∧ t.activity.element.type = "DecisionBranch" ∧
      (Build.containerPayload w t.item t.bench).any (fun p => p.actionPath.isNone &&
        p.firstAction?.any fun first => (first.2.objectField? "actions").isSome) = true) (by
    simp only [Option.any_eq_true, Bool.and_eq_true, Option.isNone_iff_eq_none]
    exact ⟨fun ⟨hcontainer, htype, p, hp, hpath, first, hfirst, hactions⟩ =>
        ⟨hcontainer, htype, p, first, hp, hpath, hfirst, hactions⟩,
      fun ⟨hcontainer, htype, p, first, hp, hpath, hfirst, hactions⟩ =>
        ⟨hcontainer, htype, p, hp, hpath, first, hfirst, hactions⟩⟩)

end Arrival

/-- The cases and the default actions of a switch after branches were put into it: each new case stands behind the old
ones, and the actions of each case, old or new, received what its branches hold. -/
structure Scope.Filled (s : Scope) (w : Workshop) (ts : List Arrival) (cases otherwise cases' otherwise' : Fields) :
    Prop where
  cases_eq : Fields.Receives cases (ts.filterMap (Arrival.case? w)) cases'
  actions : ∀ case base,
    Fields.actionsIn? (cases ++ Fields.free (Fields.names cases) (ts.filterMap (Arrival.case? w))) case = some base →
    ∃ grown, Fields.actionsIn? cases' case = some grown ∧
      Fields.Receives base (Arrival.fillings w s (some case) ts) grown
  otherwise_eq : Fields.Receives otherwise (Arrival.fillings w s none ts) otherwise'

namespace Scope.Filled

variable {s : Scope} {w : Workshop}

theorem nothing (cases otherwise : Fields) : s.Filled w [] cases otherwise cases otherwise where
  cases_eq := .nothing rfl (.refl _)
  actions case base h := by
    rw [List.filterMap_nil, Fields.free, List.append_nil] at h
    exact ⟨base, h, .nothing rfl (.refl _)⟩
  otherwise_eq := .nothing rfl (.refl _)

/-- Branches that are no case of a name hold nothing for it. -/
theorem fillings_eq_nil {ts : List Arrival} {case : String}
    (h : case ∉ Fields.names (ts.filterMap (Arrival.case? w))) : Arrival.fillings w s (some case) ts = [] := by
  unfold Arrival.fillings
  rw [List.filter_eq_nil_iff.mpr, List.flatMap_nil]
  intro t ht htarget
  obtain ⟨first, hfirst, rfl⟩ := Option.map_eq_some_iff.mp (of_decide_eq_true htarget)
  exact h (List.mem_map_of_mem (List.mem_filterMap.mpr ⟨t, ht, hfirst⟩))

theorem append {ts us : List Arrival} {cases otherwise cases' otherwise' cases'' otherwise'' : Fields}
    (hts : s.Filled w ts cases otherwise cases' otherwise')
    (hus : s.Filled w us cases' otherwise' cases'' otherwise'') :
    s.Filled w (ts ++ us) cases otherwise cases'' otherwise'' where
  cases_eq := by
    rw [List.filterMap_append]
    exact hts.cases_eq.append hus.cases_eq
  actions case base h := by
    have hnames := hts.cases_eq.names_eq
    rw [List.filterMap_append, Fields.free_append, ← Fields.names_append, ← hnames, ← List.append_assoc,
      Fields.actionsIn?_append] at h
    have hfillings : Arrival.fillings w s (some case) (ts ++ us) =
        Arrival.fillings w s (some case) ts ++ Arrival.fillings w s (some case) us := by
      rw [Arrival.fillings, List.filter_append, List.flatMap_append]
      rfl
    split at h
    · next hmem =>
        obtain ⟨middle, hmiddle, hfirst⟩ := hts.actions case base h
        obtain ⟨grown, hgrown, hsecond⟩ := hus.actions case middle (by
          rw [Fields.actionsIn?_append, if_pos (Fields.mem_names_of_actionsIn? hmiddle), hmiddle])
        exact ⟨grown, hgrown, hfillings ▸ hfirst.append hsecond⟩
    · next hmem =>
        -- The first branches have no such case: its name would be among the cases now.
        have hnone : Arrival.fillings w s (some case) ts = [] := by
          refine fillings_eq_nil fun hoffered => hmem ?_
          rw [Fields.names_append]
          exact List.mem_append.mpr (Fields.mem_names_free hoffered)
        obtain ⟨grown, hgrown, hsecond⟩ := hus.actions case base (by
          rw [Fields.actionsIn?_append, if_neg (hnames ▸ hmem), h])
        rw [hfillings, hnone, List.nil_append]
        exact ⟨grown, hgrown, hsecond⟩
  otherwise_eq := by
    rw [Arrival.fillings, List.filter_append, List.flatMap_append]
    exact hts.otherwise_eq.append hus.otherwise_eq

end Scope.Filled

theorem Arrival.IsBranch.offers {w : Workshop} {t : Arrival} (h : t.IsBranch w) :
    ∀ first ∈ (t.case? w).toList, (first.2.objectField? "actions").isSome := by
  obtain ⟨p, first, hpayload, _, hfirst, hactions⟩ := h.payload
  intro offered hoffered
  rw [case?, firstAction?, hpayload, Option.bind_some, hfirst] at hoffered
  split at hoffered
  · cases hoffered
  · rw [List.mem_singleton.mp hoffered]
    exact hactions

theorem Scope.resolve_of_isSome {s : Scope} {document : Json} {segments : List String}
    (h : (document.objectAt? (s.location ++ segments)).isSome) :
    s.resolve document segments = some ⟨s.base, s.location ++ segments⟩ := by
  unfold resolve
  dsimp only
  rw [h, Bool.or_true, if_pos rfl]

/-- With a new case that has actions, all cases have actions. -/
theorem Fields.isSome_actionsIn?_free {cases offers : Fields}
    (heach : ∀ case ∈ names cases, (actionsIn? cases case).isSome)
    (hoffers : ∀ first ∈ offers, (first.2.objectField? "actions").isSome) :
    ∀ case ∈ names (cases ++ free (names cases) offers),
      (actionsIn? (cases ++ free (names cases) offers) case).isSome := by
  intro case hcase
  rw [actionsIn?_append]
  split
  · next hmem => exact heach case hmem
  · next hmem =>
      rw [names_append, List.mem_append, or_iff_right hmem] at hcase
      obtain ⟨v, hv⟩ := exists_get?_of_mem_names hcase
      rw [actionsIn?, hv]
      exact hoffers _ (mem_of_mem_free (mem_of_get? hv))

/-- The actions of an entry are there still when the entries have grown. -/
theorem Fields.isSome_actionsIn?_of_grows {old new : Fields} {name : String}
    (h : (Json.object old).Grows (.object new)) (hold : (actionsIn? old name).isSome) :
    (actionsIn? new name).isSome := by
  rw [actionsIn?_eq] at hold ⊢
  obtain ⟨actions, hactions⟩ := Option.isSome_iff_exists.mp hold
  obtain ⟨grown, hgrown, _⟩ := h.objectAt? hactions
  rw [hgrown]
  rfl

namespace Scope.HoldsSwitch

variable {s : Scope} {switch : String} {cases otherwise : Fields}

/-- The switch with cases added, each with actions in it. -/
theorem with_cases {old new : Json} {offers : Fields} (h : s.HoldsSwitch old switch cases otherwise)
    (hoffers : ∀ first ∈ offers, (first.2.objectField? "actions").isSome) (hgrows : old.Grows new)
    (hnew : new = old.modifyAt (s.casesAt switch) fun _ =>
      .object (cases ++ Fields.free (Fields.names cases) offers)) :
    ∃ otherwise', s.HoldsSwitch new switch (cases ++ Fields.free (Fields.names cases) offers) otherwise' ∧
      Fields.Receives otherwise [] otherwise' := by
  have houtline : new.outlineAt? (s.branchAt switch none) = old.outlineAt? (s.branchAt switch none) := by
    rw [hnew]
    exact Json.outlineAt?_modifyAt _ _ (by simp [casesAt, branchAt])
  obtain ⟨otherwise', hthere, hreceives⟩ :=
    Json.ReceivesAt.nothing hgrows houtline otherwise h.otherwise_eq
  refine ⟨otherwise', ⟨?_, ?_, Fields.isSome_actionsIn?_free h.each hoffers, hthere⟩, hreceives⟩
  · rw [hnew, casesAt, names_ofType_modifyAt _ _ _ _ _ _ (by decide)]
    exact h.only
  · rw [hnew]
    exact Json.objectAt?_modifyAt_const _ h.cases_eq

/-- The switch stays what it is while the actions of one of its branches are filled. -/
theorem moves {w : Workshop} {target : Option String} {b c : Bench}
    (h : s.HoldsSwitch b.document switch cases otherwise) (hmoves : Moves w (s.branchAt switch target) b c) :
    ∃ cases' otherwise', s.HoldsSwitch c.document switch cases' otherwise' ∧ Fields.Receives cases [] cases' := by
  obtain ⟨cases', hcases, hreceives⟩ :=
    hmoves.receivesAt (not_branchAt_prefix_casesAt target) cases h.cases_eq
  obtain ⟨otherwise', hotherwise, _⟩ := hmoves.grows.objectAt? h.otherwise_eq
  refine ⟨cases', otherwise', ⟨?_, hcases, ?_, hotherwise⟩, hreceives⟩
  · rw [← h.only]
    cases target with
    | none =>
        have hbelow : Moves w (s.location ++ switch :: "default" :: ["actions"]) b c := hmoves
        exact hbelow.names_ofType (by decide)
    | some case =>
        have hbelow : Moves w (s.location ++ switch :: "cases" :: [case, "actions"]) b c := hmoves
        exact hbelow.names_ofType (by decide)
  · have hgrows := hreceives.grows
    have hnames := hreceives.names_eq
    rw [Fields.free, List.append_nil] at hgrows hnames
    intro case hcase
    rw [hnames] at hcase
    exact Fields.isSome_actionsIn?_of_grows hgrows (h.each case hcase)

end Scope.HoldsSwitch

namespace Build

variable {w : Workshop}

/-- A rendering that gives something records no issue. -/
theorem render_issues {item : Option Item} {snippet : Snippet} {p : Payload} {b c : Bench}
    (hrun : (render w item snippet).run b = (.ok (some p), c)) : c.issues = b.issues := by
  obtain ⟨v, d, hrender, hrun⟩ := run_bind_ok hrun
  cases v with
  | none => cases hrun
  | some v =>
      cases hrun
      rw [renderJson_run] at hrender
      split at hrender
      · cases hrender
      · split at hrender
        · cases hrender
        · split at hrender
          · rw [Prod.mk.injEq] at hrender
            obtain ⟨_, rfl⟩ := hrender
            rfl
          · split at hrender
            · rw [Prod.mk.injEq] at hrender
              obtain ⟨_, rfl⟩ := hrender
              rfl
            · cases hrender

theorem renderContainer_issues {item : Item} {p : Payload} {b c : Bench}
    (hrun : (renderContainer w item).run b = (.ok (some p), c)) : c.issues = b.issues := by
  obtain ⟨found, d, hresolve, hrun⟩ := run_bind_ok hrun
  cases found with
  | none => cases hrun
  | some snippet =>
      have hsame : d = b := by
        unfold resolve at hresolve
        split at hresolve
        · cases hresolve
          rfl
        · obtain ⟨_, e, _, hresolve⟩ := run_bind_ok hresolve
          cases hresolve
      obtain ⟨payload, e, hrender, hrun⟩ := run_bind_ok hrun
      split at hrun
      · obtain ⟨_, f, _, hrun⟩ := run_bind_ok hrun
        cases hrun
      · cases hrun
        rw [render_issues hrender, hsame]

/-- Where the payload of a container is known, its conversion goes on with it. -/
theorem renderContainer_run {item : Item} {p : Payload} {b d : Bench} (h : containerPayload w item b = some p)
    (hlike : b.RendersLike d) :
    ∃ e, (renderContainer w item).run d = (.ok (some p), e) ∧ e.issues = d.issues ∧ e.document = d.document := by
  cases hrun : (renderContainer w item).run b with
  | mk r c =>
      rw [containerPayload, hrun] at h
      have hr : r = .ok (some p) := by
        rcases r with f | _ | q
        · cases h
        · cases h
        · exact congrArg (fun q => Except.ok (some q)) (Option.some.inj h)
      rw [hr] at hrun
      obtain ⟨e, hrender, _⟩ := (Uniform.renderContainer item).run_eq hlike hrun
      exact ⟨e, hrender, renderContainer_issues hrender, renderContainer_document_eq hrender⟩

section Issues

/-- A build that records no issues but those of files that are missing. -/
def MissesOnly {α : Type} (x : Build α) : Prop :=
  ∀ b, ∀ i ∈ (x.run b).2.issues, i ∈ b.issues ∨ i.kind = .missingSnippet

variable {α β : Type}

theorem MissesOnly.of_issues_eq {x : Build α} (h : ∀ b, (x.run b).2.issues = b.issues) : MissesOnly x := by
  intro b i hi
  rw [h b] at hi
  exact .inl hi

theorem MissesOnly.bind {x : Build α} {f : α → Build β} (hx : MissesOnly x) (hf : ∀ a, MissesOnly (f a)) :
    MissesOnly (x >>= f) := by
  intro b i hi
  have hfirst := hx b
  rw [run_bind] at hi
  cases hrun : x.run b with
  | mk r c =>
      rw [hrun] at hi hfirst
      cases r with
      | error e => exact hfirst i hi
      | ok a =>
          rcases hf a c i hi with hbefore | hmissing
          · exact hfirst i hbefore
          · exact .inr hmissing

theorem renderJson_missesOnly (item : Option Item) (snippet : Snippet) :
    MissesOnly (renderJson w item snippet true) := by
  intro b i hi
  rw [renderJson_run] at hi
  split at hi
  · rcases List.mem_append.mp hi with hbefore | hmissing
    · exact .inl hbefore
    · rw [List.mem_singleton.mp hmissing]
      exact .inr rfl
  · split at hi
    · exact .inl hi
    · split at hi
      · exact .inl hi
      · split at hi
        · exact .inl hi
        · exact .inl hi

theorem insertActions_missesOnly (s : Scope) (source : String) (actions : Fields) :
    MissesOnly (insertActions w s source actions) := by
  induction actions with
  | nil => exact .of_issues_eq fun _ => rfl
  | cons action rest ih =>
      obtain ⟨name, body⟩ := action
      refine .bind (.of_issues_eq fun _ => rfl) fun added => ?_
      cases added with
      | true => exact .bind (.of_issues_eq fun _ => rfl) fun _ => .bind ih fun _ => .of_issues_eq fun _ => rfl
      | false => exact .bind (.of_issues_eq fun _ => rfl) fun _ => .bind ih fun _ => .of_issues_eq fun _ => rfl

theorem contributeAll_missesOnly (item : Item) (scope : Scope) (source : Snippet → String) (snippets : List Snippet) :
    MissesOnly (contributeAll w item scope source snippets) := by
  induction snippets with
  | nil => exact .of_issues_eq fun _ => rfl
  | cons snippet rest ih =>
      have hrender : MissesOnly (render w (some item) snippet) :=
        .bind (renderJson_missesOnly _ _) fun _ => .of_issues_eq fun _ => rfl
      have hcontribute : MissesOnly (contribute w item scope (source snippet) snippet) :=
        .bind hrender fun _ => .bind (insertActions_missesOnly _ _ _) fun _ => .of_issues_eq fun _ => rfl
      exact .bind hcontribute fun _ => .bind ih fun _ => .of_issues_eq fun _ => rfl

theorem stock_missesOnly (item : Item) (scope : Scope) : MissesOnly (stock w item scope) := by
  have hprebuilt : MissesOnly (prebuiltContributions w item scope) := by
    unfold prebuiltContributions
    split
    · exact .of_issues_eq fun _ => rfl
    · exact contributeAll_missesOnly _ _ _ _
  refine .bind (.bind hprebuilt fun _ => .of_issues_eq fun _ => rfl) fun count => ?_
  split
  · exact .of_issues_eq fun _ => rfl
  · exact .of_issues_eq fun _ => rfl

end Issues

section Branch

variable {s : Scope} {switch : String} {cases otherwise : Fields} {b : Bench}

theorem locateElse_run (h : s.HoldsSwitch b.document switch cases otherwise) :
    (locateElse w ⟨s.base, s.location ++ [switch]⟩ switch).run b =
      (.ok (some ⟨s.base, s.branchAt switch none⟩), b) := by
  have hplace : (s.location ++ [switch]) ++ ["default", "actions"] = s.branchAt switch none := by simp [Scope.branchAt]
  have hresolve : Scope.resolve ⟨s.base, s.location ++ [switch]⟩ b.document ["default", "actions"] =
      some ⟨s.base, s.branchAt switch none⟩ := by
    rw [Scope.resolve_of_isSome] <;> dsimp only <;> rw [hplace]
    rw [h.otherwise_eq]
    rfl
  rw [locateElse, run_get_bind, hresolve]
  rfl

/-- Adding a case whose name may be taken. -/
theorem addCase_run (h : b.document.objectAt? (s.casesAt switch) = some cases) (first : String × Json) :
    ∃ added d, (add ⟨s.base, s.casesAt switch⟩ first.1 first.2).run b = (.ok added, d) ∧ d.issues = b.issues ∧
      d.document = b.document.modifyAt (s.casesAt switch) fun _ =>
        .object (cases ++ Fields.free (Fields.names cases) [first]) := by
  obtain ⟨name, body⟩ := first
  have hthere : b.document.objectAt? (⟨s.base, s.casesAt switch⟩ : Scope).location = some cases := h
  rw [add_run _ _ _ _ hthere]
  simp only [Fields.free]
  split
  · refine ⟨false, b, rfl, rfl, ?_⟩
    rw [List.append_nil, Json.modifyAt_const ((Json.objectAt?_eq_some_iff _ _ _).mp h)]
  · exact ⟨true, _, rfl, rfl, rfl⟩

theorem openCase_run (h : s.HoldsSwitch b.document switch cases otherwise) (item : Item) {p : Payload}
    {first : String × Json} (hpath : p.actionPath = none) (hactions : (first.2.objectField? "actions").isSome) :
    ∃ own o, (openCase w item p ⟨s.base, s.location ++ [switch]⟩ switch first).run b =
        (.ok ⟨own, some ⟨s.base, s.branchAt switch (some first.1)⟩⟩, o) ∧
      o.issues = b.issues ∧
      o.document = b.document.modifyAt (s.casesAt switch) fun _ =>
        .object (cases ++ Fields.free (Fields.names cases) [first]) := by
  have hplace : (s.location ++ [switch]) ++ ["cases"] = s.casesAt switch := by simp [Scope.casesAt]
  have hresolve : Scope.resolve ⟨s.base, s.location ++ [switch]⟩ b.document ["cases"] =
      some ⟨s.base, s.casesAt switch⟩ := by
    rw [Scope.resolve_of_isSome] <;> dsimp only <;> rw [hplace]
    rw [h.cases_eq]
    rfl
  obtain ⟨added, d, hadd, hissues, hdocument⟩ := addCase_run h.cases_eq first
  -- The case is there now, with actions in it, whether it was added or not.
  have hlocate (e : Bench) (he : e.document = d.document) :
      (locateChildren w p first.1 ⟨s.base, s.casesAt switch⟩).run e =
        (.ok (some ⟨s.base, s.branchAt switch (some first.1)⟩), e) := by
    have hsegments : childSegments p first.1 = [first.1, "actions"] := by rw [childSegments, hpath]
    have hbranch : s.casesAt switch ++ [first.1, "actions"] = s.branchAt switch (some first.1) := by
      simp [Scope.casesAt, Scope.branchAt]
    have hthere : e.document.objectAt? (s.casesAt switch) =
        some (cases ++ Fields.free (Fields.names cases) [first]) := by
      rw [he, hdocument]
      exact Json.objectAt?_modifyAt_const _ h.cases_eq
    have hfound : Scope.resolve ⟨s.base, s.casesAt switch⟩ e.document [first.1, "actions"] =
        some ⟨s.base, s.branchAt switch (some first.1)⟩ := by
      rw [Scope.resolve_of_isSome] <;> dsimp only <;> rw [hbranch]
      rw [Scope.objectAt?_branchAt hthere]
      refine Fields.isSome_actionsIn?_free h.each (fun f hf => ?_) _ ?_
      · rw [List.mem_singleton.mp hf]
        exact hactions
      · rw [Fields.names_append]
        exact List.mem_append.mpr (Fields.mem_names_free (by simp))
    rw [locateChildren, run_get_bind, hsegments, hfound]
    rfl
  have hlast (own : Option Contribution) (level : Level) (logger name : String) (fields : Fields) :
      ∃ o, (do
          log level logger name fields
          return ⟨own, ← locateChildren w p first.1 ⟨s.base, s.casesAt switch⟩⟩ : Build Opening).run d =
            (.ok ⟨own, some ⟨s.base, s.branchAt switch (some first.1)⟩⟩, o) ∧
        o.issues = b.issues ∧
        o.document = b.document.modifyAt (s.casesAt switch) fun _ =>
          .object (cases ++ Fields.free (Fields.names cases) [first]) := by
    refine ⟨((log level logger name fields).run d).2, ?_, hissues, hdocument⟩
    have hlog : (log level logger name fields).run d = (.ok (), ((log level logger name fields).run d).2) := rfl
    rw [run_bind, hlog]
    dsimp only
    rw [run_bind, hlocate ((log level logger name fields).run d).2 rfl]
    rfl
  rw [openCase, run_get_bind, hresolve]
  dsimp only
  rw [run_bind, hadd]
  dsimp only
  cases added with
  | true => exact ⟨_, hlast _ .debug _ _ _⟩
  | false => exact ⟨_, hlast _ .warning _ _ _⟩

/-- A branch that has a first action with actions in it is put into the switch: its case is added if there is none of
the name, and what it opens are the actions of the case, or those of the default. No issue is recorded. -/
theorem opening_run {t : Arrival} (ht : t.IsBranch w) (h : s.HoldsSwitch t.bench.document switch cases otherwise) :
    ∃ own o, (opening w t.item s).run t.bench =
        (.ok ⟨own, some ⟨s.base, s.branchAt switch ((t.case? w).map Prod.fst)⟩⟩, o) ∧
      o.issues = t.bench.issues ∧
      o.document = t.bench.document.modifyAt (s.casesAt switch) fun _ =>
        .object (cases ++ Fields.free (Fields.names cases) (t.case? w).toList) := by
  obtain ⟨p, first, hpayload, hpath, hfirst, hactions⟩ := ht.payload
  have hfirstAction : t.firstAction? w = some first := by rw [Arrival.firstAction?, hpayload, Option.bind_some, hfirst]
  have htype : t.item.type = "DecisionBranch" := ht.type_eq
  let d := ((debug "flowsmith.assembly.handlers.decision" "converting_decision_branch"
    [("workflow", .string w.manager.name), ("branch", .string t.item.name)]).run t.bench).2
  have hlike : t.bench.RendersLike d := ⟨rfl, rfl, rfl⟩
  obtain ⟨e, hrender, hissues, hdocument⟩ := renderContainer_run hpayload hlike
  have hissues : e.issues = t.bench.issues := hissues
  have hdocument : e.document = t.bench.document := hdocument
  have hswitch : s.HoldsSwitch e.document switch cases otherwise := hdocument ▸ h
  obtain ⟨body, hbody⟩ := hswitch.exists_body
  have hstart : (openBranch w t.item s).run t.bench =
      (if t.item.name == "Else" then
          (do return ⟨none, ← locateElse w ⟨s.base, s.location ++ [switch]⟩ switch⟩ : Build Opening)
        else openCase w t.item p ⟨s.base, s.location ++ [switch]⟩ switch first).run e := by
    have hdebug : (debug "flowsmith.assembly.handlers.decision" "converting_decision_branch"
        [("workflow", .string w.manager.name), ("branch", .string t.item.name)]).run t.bench = (.ok (), d) := rfl
    rw [openBranch, run_bind, hdebug]
    dsimp only
    rw [run_bind, hrender]
    dsimp only
    rw [hfirst]
    dsimp only
    rw [run_get_bind, hbody]
  rw [opening, if_pos htype, hstart, ← hissues, ← hdocument, Arrival.case?, hfirstAction]
  by_cases helse : t.item.name = "Else"
  · rw [if_pos (by simpa using helse), if_pos helse, run_bind, locateElse_run hswitch]
    refine ⟨none, e, rfl, rfl, ?_⟩
    rw [Option.toList_none, Fields.free, List.append_nil,
      Json.modifyAt_const ((Json.objectAt?_eq_some_iff _ _ _).mp hswitch.cases_eq)]
  · rw [if_neg (by simpa using helse), if_neg helse]
    exact openCase_run hswitch t.item hpath hactions

end Branch

section Filling

variable {s : Scope} {switch : String} {cases otherwise : Fields}

/-- A branch that was opened is stocked, and its children are assembled. -/
theorem assembleBranch_runs {t : Arrival} {own : Option Contribution} {scope : Scope} {o c : Bench} {r : Bool}
    (ht : t.activity.isContainer = true) (hopening : (opening w t.item s).run t.bench = (.ok ⟨own, some scope⟩, o))
    (hrun : (assembleActivity w .standard t.place s t.activity).run t.bench = (.ok r, c)) :
    r = true ∧ ∃ d, (stock w t.item scope).run o = (.ok (), d) ∧
      (assembleActivities w .standard t.place scope 0 t.activity.children).run d = (.ok (), c) := by
  obtain ⟨place, a, b⟩ := t
  cases a with
  | leaf e => cases ht
  | container e activities vars messages =>
      rw [assembleActivity] at hrun
      exact assembleContainer_run hopening hrun

/-- What a branch holds comes into the actions that it opened, and into those of no other branch. -/
theorem fillings_receivesAt {t : Arrival} {own : Option Contribution} {o d c : Bench}
    (hopening : (opening w t.item s).run t.bench =
      (.ok ⟨own, some ⟨s.base, s.branchAt switch ((t.case? w).map Prod.fst)⟩⟩, o))
    (hstock : (stock w t.item ⟨s.base, s.branchAt switch ((t.case? w).map Prod.fst)⟩).run o = (.ok (), d))
    (hfilled : (assembleActivities w .standard t.place ⟨s.base, s.branchAt switch ((t.case? w).map Prod.fst)⟩ 0
      t.activity.children).run d = (.ok (), c))
    (hmoves : Moves w (s.branchAt switch ((t.case? w).map Prod.fst)) o c) (target : Option String) :
    Json.ReceivesAt (s.branchAt switch target) (Arrival.fillings w s target [t]) o.document c.document := by
  by_cases htarget : (t.case? w).map Prod.fst = target
  · have hfilling : Arrival.fillings w s target [t] = t.filling w s := by simp [Arrival.fillings, htarget]
    rw [hfilling, Arrival.filling, hopening, ← htarget]
    intro entries hentries
    have hthere : (o.document.objectAt? (s.branchAt switch ((t.case? w).map Prod.fst))).isSome := by
      rw [hentries]
      rfl
    exact contents_receivesAt hstock (assembleActivities_receivesAt _ hfilled) hthere entries hentries
  · have hfilling : Arrival.fillings w s target [t] = [] := by simp [Arrival.fillings, htarget]
    rw [hfilling]
    exact hmoves.receivesAt (Scope.not_branchAt_prefix fun heq => htarget heq.symm)

/-- What one branch, of whatever name, does to the switch. -/
theorem assembleBranch_filled {t : Arrival} {c : Bench} {r : Bool} (ht : t.IsBranch w)
    (h : s.HoldsSwitch t.bench.document switch cases otherwise)
    (hrun : (assembleActivity w .standard t.place s t.activity).run t.bench = (.ok r, c)) :
    r = true ∧ Json.ReceivesAt s.location [] t.bench.document c.document ∧
      ∃ cases' otherwise', s.HoldsSwitch c.document switch cases' otherwise' ∧
        s.Filled w [t] cases otherwise cases' otherwise' := by
  obtain ⟨own, o, hopening, _, hdocument⟩ := opening_run ht h
  obtain ⟨hconverted, d, hstock, hfilled⟩ := assembleBranch_runs ht.container hopening hrun
  have hmoves : Moves w (s.branchAt switch ((t.case? w).map Prod.fst)) o c :=
    ((stock_composed t.item _).does.moves hstock).trans ((assembleActivities_composed _ _ _ _).does.moves hfilled)
  have hreceives := fillings_receivesAt hopening hstock hfilled hmoves
  have hgrows := ((opening_composed t.item s).does.moves hopening).grows
  obtain ⟨opened, hopened, hbefore⟩ := h.with_cases ht.offers hgrows hdocument
  obtain ⟨cases', otherwise', hafter, hcases⟩ := hopened.moves hmoves
  have hoffered : [t].filterMap (Arrival.case? w) = (t.case? w).toList := by
    cases hcase : t.case? w <;> simp [hcase]
  refine ⟨hconverted, ?_, cases', otherwise', hafter, ?_⟩
  · have hopens : Json.ReceivesAt s.location [] t.bench.document o.document := by
      refine .nothing hgrows ?_
      rw [hdocument]
      exact Json.outlineAt?_modifyAt _ _ (not_append_prefix_self (by simp))
    exact hopens.append (hmoves.receivesAt (Scope.not_branchAt_prefix_location _))
  · constructor
    · rw [hoffered]
      have hboth := (Fields.Receives.at_once cases (t.case? w).toList).append hcases
      rwa [List.append_nil] at hboth
    · intro case base hbase
      rw [hoffered, ← Scope.objectAt?_branchAt hopened.cases_eq] at hbase
      obtain ⟨grown, hgrown, hall⟩ := hreceives (some case) base hbase
      rw [Scope.objectAt?_branchAt hafter.cases_eq] at hgrown
      exact ⟨grown, hgrown, hall⟩
    · obtain ⟨grown, hgrown, hall⟩ := hreceives none opened hopened.otherwise_eq
      rw [hafter.otherwise_eq] at hgrown
      cases hgrown
      exact hbefore.append hall

/-- What a list of branches does to the switch, branch after branch. -/
theorem assembleBranches_filled {place : Place} {index : Nat} {branches : List Activity} {b c : Bench}
    (h : s.HoldsSwitch b.document switch cases otherwise)
    (hbranches : ∀ t ∈ arrivals w place s index b branches, t.IsBranch w)
    (hrun : (assembleActivities w .standard place s index branches).run b = (.ok (), c)) :
    (∀ t ∈ arrivals w place s index b branches,
        ((assembleActivity w .standard t.place s t.activity).run t.bench).1 = .ok true ∧
          ∃ cases otherwise, s.HoldsSwitch t.bench.document switch cases otherwise) ∧
      Json.ReceivesAt s.location [] b.document c.document ∧
      ∃ cases' otherwise', s.HoldsSwitch c.document switch cases' otherwise' ∧
        s.Filled w (arrivals w place s index b branches) cases otherwise cases' otherwise' := by
  induction branches generalizing index b cases otherwise with
  | nil =>
      cases hrun
      exact ⟨fun t ht => (by cases ht), .refl _ _, cases, otherwise, h, .nothing cases otherwise⟩
  | cons a rest ih =>
      rw [arrivals, List.forall_mem_cons] at hbranches
      obtain ⟨r, d, hfirst, hrun⟩ := assembleActivities_cons_run hrun
      obtain ⟨rfl, hnames, cases₁, otherwise₁, hswitch, hfilled⟩ := assembleBranch_filled hbranches.1 h hfirst
      rw [hfirst] at hbranches
      obtain ⟨hconverted, hnames', cases₂, otherwise₂, hswitch', hfilled'⟩ := ih hswitch hbranches.2 hrun
      rw [arrivals, hfirst]
      refine ⟨?_, hnames.append hnames', cases₂, otherwise₂, hswitch', hfilled.append hfilled'⟩
      rw [List.forall_mem_cons]
      exact ⟨⟨by rw [hfirst], cases, otherwise, h⟩, hconverted⟩

end Filling

end Build

open Build in
/-- Decision branches that are assembled under a scope with one switch are all converted, and none of them records an
issue of its own but that a file is missing. The names in the scope stay as they are, the switch stays well-formed, and
it is filled: each branch that is not an Else branch has the case of its name, what it holds is in the actions of that
case, and what the Else branches hold is in the actions of the default. -/
theorem branches_fill_one_switch (w : Workshop) (s : Scope) (place : Place) (index : Nat) (branches : List Activity)
    (b c : Bench) (switch : String) (cases otherwise : Fields)
    (hswitch : s.HoldsSwitch b.document switch cases otherwise)
    (hbranches : ∀ t ∈ arrivals w place s index b branches, t.IsBranch w)
    (hrun : (assembleActivities w .standard place s index branches).run b = (.ok (), c)) :
    let ts := arrivals w place s index b branches
    (∀ t ∈ ts, ((assembleActivity w .standard t.place s t.activity).run t.bench).1 = .ok true ∧
        ∃ scope o, ((Registry.standard.containerHandler t.item.type).convert w t.item s).run t.bench =
            (.ok (some scope), o) ∧
          o.issues = t.bench.issues ∧
          ∀ i ∈ ((stock w t.item scope).run o).2.issues, i ∈ t.bench.issues ∨ i.kind = .missingSnippet) ∧
      s.names c.document = s.names b.document ∧
      ∃ cases' otherwise', s.HoldsSwitch c.document switch cases' otherwise' ∧
        s.Filled w ts cases otherwise cases' otherwise' := by
  intro ts
  obtain ⟨hconverted, hnames, hfilled⟩ := assembleBranches_filled hswitch hbranches hrun
  refine ⟨fun t ht => ?_, ?_, hfilled⟩
  · obtain ⟨hok, _, _, hthere⟩ := hconverted t ht
    obtain ⟨own, o, hopening, hissues, _⟩ := opening_run (hbranches t ht) hthere
    have hconvert : ((Registry.standard.containerHandler t.item.type).convert w t.item s).run t.bench =
        (.ok (some ⟨s.base, s.branchAt switch ((t.case? w).map Prod.fst)⟩), o) := by
      rw [convert_container, run_bind, hopening]
      rfl
    refine ⟨hok, _, o, hconvert, hissues, fun i hi => ?_⟩
    rw [← hissues]
    exact stock_missesOnly _ _ o i hi
  · have hobject : (b.document.objectAt? s.location).isSome := by
      have hcases : (b.document.objectAt? (s.location ++ [switch, "cases"])).isSome := by
        rw [← Scope.casesAt, hswitch.cases_eq]
        rfl
      exact Json.objectAt?_isSome_of_append hcases
    obtain ⟨entries, hentries⟩ := Option.isSome_iff_exists.mp hobject
    obtain ⟨grown, hgrown, hreceives⟩ := hnames entries hentries
    have hsame := hreceives.names_eq
    rw [Fields.free, List.append_nil] at hsame
    rw [Scope.names, Scope.names, Scope.entries, Scope.entries, hgrown, hentries]
    exact hsame

/-- A switch with one case. -/
def switchCases : Fields := [("Old", .object [("actions", .object [])])]

/-- The plain bench with that switch in its document. -/
def switchBench : Bench :=
  { plainBench with
    document := .object [("actions", .object [("D", .object [("type", .string "Switch"),
      ("cases", .object switchCases), ("default", .object [("actions", .object [])])])])] }

/-- Two branches of one case with an Else branch between them: the first and the Else branch hold an activity, the last
one a container. -/
def switchBranches : List Activity :=
  let branch (name : String) (child : Activity) : Activity :=
    .container { (default : Element) with name := name, type := "DecisionBranch" } [child] [] []
  [branch "first" (.leaf default), branch "Else" (.leaf default), branch "last" (.container default [] [] [])]

open Build in
/-- Both branches fill the one case that was added, in their order, and the Else branch fills the default. -/
theorem branches_fill_one_switch_shared :
    ∃ c cases otherwise, (assembleActivities plainWorkshop .standard .workflow plainScope 0 switchBranches).run
        switchBench = (.ok (), c) ∧
      plainScope.HoldsSwitch c.document "D" cases otherwise ∧ Fields.names cases = ["Old", "X"] ∧
      (Fields.actionsIn? cases "X").map Fields.names = some ["Y", "X"] ∧ Fields.names otherwise = ["Y"] := by
  have hswitch : plainScope.HoldsSwitch switchBench.document "D" switchCases [] :=
    ⟨by decide, rfl, by decide, rfl⟩
  obtain ⟨_, c, hrun, hbranches, hcases, hbase, hshared, helse⟩ : ∃ r c,
      (assembleActivities plainWorkshop .standard .workflow plainScope 0 switchBranches).run switchBench = (.ok r, c) ∧
        (∀ t ∈ arrivals plainWorkshop .workflow plainScope 0 switchBench switchBranches, t.IsBranch plainWorkshop) ∧
        Fields.names (switchCases ++ Fields.free (Fields.names switchCases)
          ((arrivals plainWorkshop .workflow plainScope 0 switchBench switchBranches).filterMap
            (Arrival.case? plainWorkshop))) = ["Old", "X"] ∧
        (Fields.actionsIn? (switchCases ++ Fields.free (Fields.names switchCases)
          ((arrivals plainWorkshop .workflow plainScope 0 switchBench switchBranches).filterMap
            (Arrival.case? plainWorkshop))) "X").map Fields.names = some [] ∧
        Fields.names (Fields.free [] (Arrival.fillings plainWorkshop plainScope (some "X")
          (arrivals plainWorkshop .workflow plainScope 0 switchBench switchBranches))) = ["Y", "X"] ∧
        Fields.names ([] ++ Fields.free (Fields.names []) (Arrival.fillings plainWorkshop plainScope none
          (arrivals plainWorkshop .workflow plainScope 0 switchBench switchBranches))) = ["Y"] :=
    Build.exists_run _ (by decide +kernel)
  obtain ⟨_, _, cases, otherwise, hafter, hfilled⟩ := branches_fill_one_switch plainWorkshop plainScope .workflow 0
    switchBranches switchBench c "D" switchCases [] hswitch hbranches hrun
  refine ⟨c, cases, otherwise, hrun, hafter, hfilled.cases_eq.names_eq.trans hcases, ?_,
    hfilled.otherwise_eq.names_eq.trans helse⟩
  obtain ⟨base, hbase, hempty⟩ := Option.map_eq_some_iff.mp hbase
  obtain ⟨grown, hgrown, hreceives⟩ := hfilled.actions "X" base hbase
  rw [hgrown, Option.map_some, hreceives.names_eq, Fields.names_append, hempty, List.nil_append]
  exact congrArg some hshared

end WorkflowForge
