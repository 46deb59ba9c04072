import WorkflowForge.Proofs.Assembly.Appending
import WorkflowForge.Proofs.Assembly.Record

/-!
What the contributions of an assembly do to the document. The document after an assembly depends on the contributions
alone: each of them appends the actions whose names are free to the collection of its scope, and nothing else changes
the document. So a run that ends well is a derivation over documents that follows the tree of activities.
-/

namespace WorkflowForge

/-- The entries that find their names free when they are added one by one where some names are taken. -/
def Fields.free (taken : List String) : Fields → Fields
  | [] => []
  | (name, body) :: rest =>
    if name ∈ taken then free taken rest else (name, body) :: free (taken ++ [name]) rest

/-- The actions that a contribution offered. -/
def Contribution.actions (c : Contribution) : Fields := c.payload.actions.getD []

/-- The entries of a collection with those that a contribution added to them. -/
def Contribution.onto (c : Contribution) (entries : Fields) : Fields :=
  entries ++ Fields.free (Fields.names entries) c.actions

/-- Contributions to the collection of a scope, one after the other, and the document before and after them. -/
inductive Contributed (s : Scope) : List Contribution → Json → Json → Prop
  | nil (document : Json) : Contributed s [] document document
  | cons {c : Contribution} {rest : List Contribution} {old new : Json} {entries : Fields} (hscope : c.scope = s)
      (hentries : old.objectAt? s.location = some entries)
      (hinserted : c.inserted = Fields.names (Fields.free (Fields.names entries) c.actions))
      (hrest : Contributed s rest (old.modifyAt s.location fun _ => .object (c.onto entries)) new) :
      Contributed s (c :: rest) old new

namespace Contributed

theorem append {s : Scope} {first second : List Contribution} {old middle new : Json}
    (hfirst : Contributed s first old middle) (hsecond : Contributed s second middle new) :
    Contributed s (first ++ second) old new := by
  induction hfirst with
  | nil => exact hsecond
  | cons hscope hentries hinserted _ ih => exact .cons hscope hentries hinserted (ih hsecond)

/-- The collection is there after the contributions, if it was before them. -/
theorem object {s : Scope} {contributions : List Contribution} {old new : Json}
    (h : Contributed s contributions old new) (hold : (old.objectAt? s.location).isSome) :
    (new.objectAt? s.location).isSome := by
  induction h with
  | nil => exact hold
  | cons _ hentries _ _ ih =>
      refine ih ?_
      rw [Json.objectAt?_modifyAt_const _ hentries]
      rfl

end Contributed

namespace Build

variable {w : Workshop}

theorem add_run (s : Scope) (name : String) (body : Json) (b : Bench) {entries : Fields}
    (h : b.document.objectAt? s.location = some entries) :
    (add s name body).run b =
      if name ∈ Fields.names entries then (.ok false, b)
      else
        (.ok true,
          { b with document := b.document.modifyAt s.location fun _ => .object (entries ++ [(name, body)]) }) := by
  change (Except.ok (s.add b.document name body).1, { b with document := (s.add b.document name body).2 }) = _
  have hhas : s.has b.document name = decide (name ∈ Fields.names entries) := by
    rw [Scope.has, Scope.entries, h, Bool.eq_iff_iff, Option.getD_some, Fields.has_iff, decide_eq_true_eq]
  unfold Scope.add
  rw [hhas]
  by_cases hmem : name ∈ Fields.names entries
  · simp [hmem]
  · have hadd : b.document.addAt s.location name body =
        b.document.modifyAt s.location fun _ => .object (entries ++ [(name, body)]) := by
      refine Json.modifyAt_congr fun v hv => ?_
      rw [(Json.objectAt?_eq_some_iff _ _ _).mp h] at hv
      cases hv
      rfl
    simp [hmem, hadd]

/-- Actions are inserted where their names are free. -/
theorem insertActions_run (s : Scope) (source : String) (actions : Fields) (b : Bench) {entries : Fields}
    (h : b.document.objectAt? s.location = some entries) :
    ∃ c, (insertActions w s source actions).run b =
        (.ok (Fields.names (Fields.free (Fields.names entries) actions)), c) ∧
      c.document =
        b.document.modifyAt s.location fun _ => .object (entries ++ Fields.free (Fields.names entries) actions) := by
  induction actions generalizing b entries with
  | nil =>
      refine ⟨b, rfl, ?_⟩
      rw [Fields.free, List.append_nil, Json.modifyAt_const ((Json.objectAt?_eq_some_iff _ _ _).mp h)]
  | cons action rest ih =>
      obtain ⟨name, body⟩ := action
      have hrest (names : List String) {entries : Fields} (b : Bench)
          (h : b.document.objectAt? s.location = some entries) :
          ∃ c, (do return names ++ (← insertActions w s source rest) : Build (List String)).run b =
              (.ok (names ++ Fields.names (Fields.free (Fields.names entries) rest)), c) ∧
            c.document =
              b.document.modifyAt s.location fun _ => .object (entries ++ Fields.free (Fields.names entries) rest) := by
        obtain ⟨c, hc, hdocument⟩ := ih b h
        refine ⟨c, ?_, hdocument⟩
        rw [run_bind, hc]
        rfl
      rw [insertActions, run_bind, add_run s name body b h, Fields.free]
      by_cases hmem : name ∈ Fields.names entries
      · rw [if_pos hmem, if_pos hmem]
        exact hrest [] _ h
      · rw [if_neg hmem, if_neg hmem]
        have hadded := Json.objectAt?_modifyAt_const (entries ++ [(name, body)]) h
        obtain ⟨c, hc, hdocument⟩ := hrest [name] { b with document := _, journal := _ } hadded
        refine ⟨c, ?_, ?_⟩
        · rw [Fields.names_append] at hc
          exact hc
        · rw [hdocument, Json.modifyAt_modifyAt]
          simp [Function.comp_def]

theorem contribute_contributed {item : Item} {scope : Scope} {source : String} {snippet : Snippet} {b c : Bench}
    {own : Option Contribution} (hrun : (contribute w item scope source snippet).run b = (.ok own, c))
    (hobject : (b.document.objectAt? scope.location).isSome) :
    Contributed scope own.toList b.document c.document := by
  obtain ⟨payload, d, hrender, hrun⟩ := run_bind_ok hrun
  obtain ⟨inserted, e, hinsert, hrun⟩ := run_bind_ok hrun
  cases hrun
  have hsame : d.document = b.document := Does.document_eq (fun _ => render_acts _ _) hrender
  obtain ⟨entries, hentries⟩ := Option.isSome_iff_exists.mp hobject
  rw [← hsame] at hentries ⊢
  obtain ⟨e', hinsert', hdocument⟩ :=
    insertActions_run (w := w) scope source (actionsOf payload) d hentries
  rw [hinsert] at hinsert'
  cases hinsert'
  cases payload with
  | none =>
      have hnothing : c.document = d.document := by
        rw [hdocument, actionsOf, Option.bind_none, Option.getD_none, Fields.free, List.append_nil,
          Json.modifyAt_const ((Json.objectAt?_eq_some_iff _ _ _).mp hentries)]
      rw [hnothing]
      exact .nil _
  | some p =>
      rw [hdocument]
      exact .cons rfl hentries rfl (.nil _)

theorem contributeAll_contributed {item : Item} {scope : Scope} {source : Snippet → String} {snippets : List Snippet}
    {b c : Bench} {own : List Contribution}
    (hrun : (contributeAll w item scope source snippets).run b = (.ok own, c))
    (hobject : (b.document.objectAt? scope.location).isSome) :
    Contributed scope own b.document c.document := by
  induction snippets generalizing b own with
  | nil =>
      cases hrun
      exact .nil _
  | cons snippet rest ih =>
      obtain ⟨first, d, hfirst, hrun⟩ := run_bind_ok hrun
      obtain ⟨others, e, hothers, hrun⟩ := run_bind_ok hrun
      cases hrun
      have hcontributed := contribute_contributed hfirst hobject
      exact hcontributed.append (ih hothers (hcontributed.object hobject))

theorem activityContributions_contributed {item : Item} {parent : Scope} {b c : Bench} {own : List Contribution}
    (hrun : (activityContributions w item parent).run b = (.ok own, c))
    (hobject : (b.document.objectAt? parent.location).isSome) :
    Contributed parent own b.document c.document := by
  obtain ⟨_, d, hdebug, hrun⟩ := run_bind_ok hrun
  obtain ⟨found, e, hresolve, hrun⟩ := run_bind_ok hrun
  have hsame : e.document = b.document :=
    (Does.document_eq (fun _ => resolve_acts _ _) hresolve).trans (debug_document_eq hdebug)
  cases found with
  | none =>
      cases hrun
      rw [hsame]
      exact .nil _
  | some snippet =>
      obtain ⟨first, f, hfirst, hrun⟩ := run_bind_ok hrun
      cases hrun
      rw [← hsame] at hobject ⊢
      exact contribute_contributed hfirst hobject

theorem channelContributions_contributed {kind : String} {item : Item} {parent : Scope} {b c : Bench}
    {own : List Contribution} (hrun : (channelContributions kind w item parent).run b = (.ok own, c))
    (hobject : (b.document.objectAt? parent.location).isSome) :
    Contributed parent own b.document c.document := by
  unfold channelContributions at hrun
  dsimp only at hrun
  split at hrun
  · obtain ⟨_, d, hdebug, hrun⟩ := run_bind_ok hrun
    have hsame : d.document = b.document := debug_document_eq hdebug
    rw [← hsame] at hobject ⊢
    exact activityContributions_contributed hrun hobject
  · exact contributeAll_contributed hrun hobject

theorem leafContributions_contributed {item : Item} {parent : Scope} {b c : Bench} {own : List Contribution}
    (hrun : (leafContributions w item parent).run b = (.ok own, c))
    (hobject : (b.document.objectAt? parent.location).isSome) :
    Contributed parent own b.document c.document := by
  unfold leafContributions at hrun
  split at hrun
  · exact channelContributions_contributed hrun hobject
  · split at hrun
    · exact channelContributions_contributed hrun hobject
    · exact activityContributions_contributed hrun hobject

theorem prebuiltContributions_contributed {item : Item} {scope : Scope} {b c : Bench} {own : List Contribution}
    (hrun : (prebuiltContributions w item scope).run b = (.ok own, c))
    (hobject : (b.document.objectAt? scope.location).isSome) :
    Contributed scope own b.document c.document := by
  unfold prebuiltContributions at hrun
  split at hrun
  · cases hrun
    exact .nil _
  · exact contributeAll_contributed hrun hobject

/-- The scope that is found for the children of an action is a collection below the action's own. -/
theorem locateChildren_found {payload : Payload} {action : String} {parent scope : Scope} {b c : Bench}
    (hrun : (locateChildren w payload action parent).run b = (.ok (some scope), c))
    (hobject : (b.document.objectAt? parent.location).isSome) :
    scope.location = parent.location ++ childSegments payload action ∧
      (c.document.objectAt? scope.location).isSome := by
  have hsame : c.document = b.document := Does.document_eq (fun _ => (locateChildren_paired _ _ _).alone.does) hrun
  rw [hsame]
  obtain ⟨d, e, hget, hrun⟩ := run_bind_ok hrun
  cases hget
  split at hrun
  · next found hfound =>
      cases hrun
      have hlocation := resolve_location hfound
      refine ⟨hlocation, ?_⟩
      unfold Scope.resolve at hfound
      dsimp only at hfound
      split at hfound
      · next hthere =>
          rw [hlocation]
          rcases Bool.or_eq_true_iff.mp hthere with hempty | hsome
          · rw [List.isEmpty_iff.mp hempty, List.append_nil]
            exact hobject
          · exact hsome
      · cases hfound
  · obtain ⟨_, f, _, hrun⟩ := run_bind_ok hrun
    cases hrun

end Build

mutual

/-- How a record comes about at a scope, and the document before and after: a leaf and a container that is skipped make
their contributions to the collection of the scope; a container that is converted does so too, and then the pre-built
actions and the children go into the collection below its first action. -/
inductive Recorded : Scope → Record → Json → Json → Prop
  | leaf {s : Scope} {own : List Contribution} {old new : Json} (hown : Contributed s own old new) :
      Recorded s (.leaf own) old new
  | skipped {s : Scope} {own : Option Contribution} {old new : Json} (hown : Contributed s own.toList old new) :
      Recorded s (.skipped own) old new
  | converted {s scope : Scope} {c : Contribution} {first : String × Json} {prebuilt : List Contribution}
      {children : List Record} {old opened filled new : Json} (hown : Contributed s [c] old opened)
      (hfirst : c.payload.firstAction? = some first)
      (hlocation : scope.location = s.location ++ Build.childSegments c.payload first.1)
      (hobject : (opened.objectAt? scope.location).isSome) (hprebuilt : Contributed scope prebuilt opened filled)
      (hchildren : RecordedAll scope children filled new) :
      Recorded s (.converted (some c) scope prebuilt children) old new

inductive RecordedAll : Scope → List Record → Json → Json → Prop
  | nil {s : Scope} (document : Json) : RecordedAll s [] document document
  | cons {s : Scope} {r : Record} {rest : List Record} {old middle new : Json} (hfirst : Recorded s r old middle)
      (hrest : RecordedAll s rest middle new) : RecordedAll s (r :: rest) old new

end

/-- What the conversion of a container did at a scope: it made its contribution, and the collection it found for the
children is below the first action of that. -/
structure Opening.Recorded (o : Opening) (parent : Scope) (old new : Json) : Prop where
  own : Contributed parent o.own.toList old new
  scope : ∀ scope, o.scope = some scope → ∃ c first, o.own = some c ∧ c.payload.firstAction? = some first ∧
    scope.location = parent.location ++ Build.childSegments c.payload first.1 ∧ (new.objectAt? scope.location).isSome

namespace Build

variable {w : Workshop}

theorem not_opened_recorded (parent : Scope) (document : Json) :
    Opening.Recorded ⟨none, none⟩ parent document document :=
  ⟨.nil _, fun _ h => by cases h⟩

theorem openContainer_recorded {item : Item} {parent : Scope} {o : Opening} {b c : Bench}
    (hrun : (openContainer w item parent).run b = (.ok o, c))
    (hobject : (b.document.objectAt? parent.location).isSome) : o.Recorded parent b.document c.document := by
  obtain ⟨_, d, hdebug, hrun⟩ := run_bind_ok hrun
  obtain ⟨rendered, e, hrender, hrun⟩ := run_bind_ok hrun
  have hsame : e.document = b.document := (renderContainer_document_eq hrender).trans (debug_document_eq hdebug)
  rw [← hsame] at hobject ⊢
  split at hrun
  · cases hrun
    exact not_opened_recorded parent _
  · next payload =>
      split at hrun
      · cases hrun
        exact not_opened_recorded parent _
      · next name body hfirst =>
          obtain ⟨entries, hentries⟩ := Option.isSome_iff_exists.mp hobject
          obtain ⟨inserted, f, hinsert, hrun⟩ := run_bind_ok hrun
          obtain ⟨found, g, hlocate, hrun⟩ := run_bind_ok hrun
          cases hrun
          have hown : Contributed parent [⟨payload, parent, inserted⟩] e.document f.document := by
            obtain ⟨f', hinsert', hdocument⟩ :=
              insertActions_run (w := w) parent item.name (payload.actions.getD []) e hentries
            rw [hinsert] at hinsert'
            cases hinsert'
            rw [hdocument]
            exact .cons rfl hentries rfl (.nil _)
          have hkept : c.document = f.document := Does.document_eq (fun _ => (locateChildren_paired _ _ _).alone.does) hlocate
          refine ⟨hkept ▸ hown, fun scope hscope => ?_⟩
          cases hscope
          obtain ⟨hlocation, hthere⟩ := locateChildren_found hlocate (hown.object hobject)
          exact ⟨_, _, rfl, hfirst, hlocation, hthere⟩

theorem recordContainer_recorded {item : Item} {parent : Scope} {children : Scope → Build (List Record)} {r : Record}
    {b c : Bench} (hbranch : item.type ≠ "DecisionBranch")
    (hchildren : ∀ scope records d e, (children scope).run d = (.ok records, e) →
      (d.document.objectAt? scope.location).isSome → RecordedAll scope records d.document e.document)
    (hrun : (recordContainer w item parent children).run b = (.ok r, c))
    (hobject : (b.document.objectAt? parent.location).isSome) : Recorded parent r b.document c.document := by
  obtain ⟨o, d, hopening, hrun⟩ := run_bind_ok hrun
  rw [opening, if_neg hbranch] at hopening
  obtain ⟨hown, hscope⟩ := openContainer_recorded hopening hobject
  split at hrun
  · obtain ⟨_, e, hdebug, hrun⟩ := run_bind_ok hrun
    cases hrun
    rw [debug_document_eq hdebug]
    exact .skipped hown
  · next scope hfound =>
      obtain ⟨own, first, hsome, hfirst, hlocation, hthere⟩ := hscope scope hfound
      rw [hsome] at hown
      obtain ⟨prebuilt, e, hprebuilt, hrun⟩ := run_bind_ok hrun
      have hfilled := prebuiltContributions_contributed hprebuilt hthere
      have hrest {d : Bench} (hsame : d.document = e.document)
          (h : (do return .converted o.own scope prebuilt (← children scope) : Build Record).run d = (.ok r, c)) :
          Recorded parent r b.document c.document := by
        obtain ⟨records, f, hrecords, h⟩ := run_bind_ok h
        cases h
        have hdone := hchildren scope records d c hrecords (by rw [hsame]; exact hfilled.object hthere)
        rw [hsame] at hdone
        rw [hsome]
        exact .converted hown hfirst hlocation hthere hfilled hdone
      dsimp only at hrun
      split at hrun
      · obtain ⟨_, f, hdebug, hrun⟩ := run_bind_ok hrun
        exact hrest (debug_document_eq hdebug) hrun
      · exact hrest rfl hrun

theorem recordActivity_grows {place : Place} {parent : Scope} {a : Activity} {r : Record} {b c : Bench}
    (hrun : (recordActivity w place parent a).run b = (.ok r, c)) : b.document.Grows c.document := by
  have hgrows := (Operation.build_acts w (.activity place a parent)).grows b
  have hdiscard : ((Operation.build w (.activity place a parent)).run b).2 =
      ((assembleActivity w .standard place parent a).run b).2 := run_return _ _ b
  rw [hdiscard] at hgrows
  rw [assembleActivity_eq, map_eq_pure_bind, run_return, hrun] at hgrows
  exact hgrows

mutual

/-- A run of the recorded assembly that ends well, without decision branches, comes about as records do. -/
theorem recordActivity_recorded {place : Place} {parent : Scope} {r : Record} {b c : Bench} :
    (a : Activity) → (∀ x ∈ a.containers, x.element.type ≠ "DecisionBranch") →
      (recordActivity w place parent a).run b = (.ok r, c) → (b.document.objectAt? parent.location).isSome →
        Recorded parent r b.document c.document
  | .leaf e, _, hrun, hobject => by
      rw [recordActivity] at hrun
      obtain ⟨own, d, hown, hrun⟩ := run_bind_ok hrun
      cases hrun
      exact .leaf (leafContributions_contributed hown hobject)
  | .container e activities vars messages, hbranches, hrun, hobject => by
      rw [recordActivity] at hrun
      rw [Activity.containers] at hbranches
      have hown : (Item.ofActivity place (.container e activities vars messages)).type ≠ "DecisionBranch" :=
        hbranches _ List.mem_cons_self
      refine recordContainer_recorded hown (fun scope records d f hrecords hthere => ?_) hrun hobject
      exact recordActivities_recorded activities (fun x hx => hbranches x (by simp [hx])) hrecords hthere

theorem recordActivities_recorded {place : Place} {scope : Scope} {index : Nat} {records : List Record}
    {b c : Bench} :
    (activities : List Activity) → (∀ x ∈ Activity.containersIn activities, x.element.type ≠ "DecisionBranch") →
      (recordActivities w place scope index activities).run b = (.ok records, c) →
        (b.document.objectAt? scope.location).isSome → RecordedAll scope records b.document c.document
  | [], _, hrun, _ => by
      rw [recordActivities] at hrun
      cases hrun
      exact .nil _
  | a :: rest, hbranches, hrun, hobject => by
      rw [recordActivities] at hrun
      rw [Activity.containersIn] at hbranches
      obtain ⟨r, d, hfirst, hrun⟩ := run_bind_ok hrun
      obtain ⟨others, e, hothers, hrun⟩ := run_bind_ok hrun
      cases hrun
      have hthere : (d.document.objectAt? scope.location).isSome := by
        obtain ⟨entries, hentries⟩ := Option.isSome_iff_exists.mp hobject
        obtain ⟨grown, hgrown, _⟩ := (recordActivity_grows hfirst).objectAt? hentries
        rw [hgrown]
        rfl
      exact .cons (recordActivity_recorded a (fun x hx => hbranches x (by simp [hx])) hfirst hobject)
        (recordActivities_recorded rest (fun x hx => hbranches x (by simp [hx])) hothers hthere)

end

theorem recordWorkflow_recorded {flow : Workflow} {parent : Scope} {r : Record} {b c : Bench}
    (hbranches : ∀ x ∈ flow.containers, x.element.type ≠ "DecisionBranch")
    (hrun : (recordWorkflow w flow parent).run b = (.ok r, c))
    (hobject : (b.document.objectAt? parent.location).isSome) : Recorded parent r b.document c.document := by
  rw [Workflow.containers, Workflow.root, Activity.containers] at hbranches
  have hroot : (Item.ofWorkflow flow).type ≠ "DecisionBranch" := hbranches _ List.mem_cons_self
  refine recordContainer_recorded hroot (fun scope records d e hrecords hthere => ?_) hrun hobject
  exact recordActivities_recorded flow.activities (fun x hx => hbranches x (by simp [hx])) hrecords hthere

end Build

end WorkflowForge
