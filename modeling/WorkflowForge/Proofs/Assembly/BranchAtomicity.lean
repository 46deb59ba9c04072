import WorkflowForge.Proofs.Assembly.Switches

/-!
What a decision branch leaves behind when it is skipped. There are seven ways out of its conversion. Five of them skip
the branch, and four of these find the document as it was: there is nothing to convert, the scope has not one switch,
the switch has no default for an Else branch, or it has no cases. The fifth comes after the case was added, when the
case has no collection for the children; then the case is all that was added. Each of the last four says once what is
missing. A branch that is converted says nothing, and what it opens is there.
-/

namespace WorkflowForge

/-- Where a scope resolves, it resolves to the place below it. -/
theorem Scope.resolve_eq_map {s : Scope} {document : Json} {segments : List String}
    (h : segments = [] → (document.objectAt? s.location).isSome) :
    s.resolve document segments =
      (document.objectAt? (s.location ++ segments)).map fun _ => ⟨s.base, s.location ++ segments⟩ := by
  have hthere : (segments.isEmpty || (document.objectAt? (s.location ++ segments)).isSome) =
      (document.objectAt? (s.location ++ segments)).isSome := by
    cases segments with
    | nil =>
        rw [List.append_nil, h rfl]
        rfl
    | cons _ _ => rfl
  unfold resolve
  dsimp only
  rw [hthere]
  cases document.objectAt? (s.location ++ segments) <;> rfl

/-- The document with a case added to a switch, unless there is one of the name. -/
def Scope.withCase (s : Scope) (switch : String) (cases : Fields) (first : String × Json) (document : Json) : Json :=
  document.modifyAt (s.casesAt switch) fun _ => .object (cases ++ Fields.free (Fields.names cases) [first])

theorem Scope.withCase_of_mem {s : Scope} {switch : String} {cases : Fields} {first : String × Json} {document : Json}
    (hcases : document.objectAt? (s.casesAt switch) = some cases) (h : first.1 ∈ Fields.names cases) :
    s.withCase switch cases first document = document := by
  have hfree : Fields.free (Fields.names cases) [first] = [] := by rw [Fields.free, if_pos h, Fields.free]
  rw [withCase, hfree, List.append_nil, Json.modifyAt_const ((Json.objectAt?_eq_some_iff _ _ _).mp hcases)]

theorem Scope.withCase_of_not_mem {s : Scope} {switch : String} {cases : Fields} {first : String × Json}
    (h : first.1 ∉ Fields.names cases) (document : Json) :
    s.withCase switch cases first document =
      document.modifyAt (s.casesAt switch) fun _ => .object (cases ++ [first]) := by
  rw [withCase, Fields.free, if_neg h, Fields.free]

namespace Build

/-- The issue of a place that the document does not have. -/
def astray (w : Workshop) (message path : String) : Issue :=
  ⟨.structuralPathNotFound, w.manager.name, message, some path⟩

/-- The ways in which the conversion of a decision branch can end, each with what it has done by then. -/
inductive BranchExit (w : Workshop) (item : Item) (parent : Scope) (b c : Bench) : Option Scope → Prop
  | unrendered (hpayload : containerPayload w item b = none) (hdocument : c.document = b.document)
      (hissues : ∀ i ∈ c.issues, i ∈ b.issues ∨ i.kind ≠ .structuralPathNotFound) : BranchExit w item parent b c none
  | noSwitch {payload : Payload} {switches : Fields} (hpayload : containerPayload w item b = some payload)
      (hswitches : parent.ofType b.document "Switch" = switches) (hcount : switches.length ≠ 1)
      (hdocument : c.document = b.document)
      (hissues : c.issues = b.issues ++ [astray w
        s!"Expected exactly one Switch action for decision branch '{item.name}', found {switches.length}"
        parent.pathText]) : BranchExit w item parent b c none
  | noDefault {payload : Payload} {switch : String} (hpayload : containerPayload w item b = some payload)
      (hswitch : Fields.names (parent.ofType b.document "Switch") = [switch]) (helse : item.name = "Else")
      (habsent : b.document.objectAt? (parent.branchAt switch none) = none) (hdocument : c.document = b.document)
      (hissues : c.issues = b.issues ++ [astray w s!"Switch '{switch}' has no default actions for the Else branch"
        s!"{(Scope.mk parent.base (parent.location ++ [switch])).pathText}.default.actions"]) :
      BranchExit w item parent b c none
  | noCases {payload : Payload} {switch : String} (hpayload : containerPayload w item b = some payload)
      (hswitch : Fields.names (parent.ofType b.document "Switch") = [switch]) (helse : item.name ≠ "Else")
      (habsent : b.document.objectAt? (parent.casesAt switch) = none) (hdocument : c.document = b.document)
      (hissues : c.issues = b.issues ++ [astray w s!"Switch '{switch}' has no cases for branch '{item.name}'"
        s!"{(Scope.mk parent.base (parent.location ++ [switch])).pathText}.cases"]) : BranchExit w item parent b c none
  | noChildren {payload : Payload} {switch : String} {cases : Fields} {first : String × Json}
      (hpayload : containerPayload w item b = some payload) (hfirst : payload.firstAction? = some first)
      (hswitch : Fields.names (parent.ofType b.document "Switch") = [switch]) (helse : item.name ≠ "Else")
      (hcases : b.document.objectAt? (parent.casesAt switch) = some cases)
      (hdocument : c.document = parent.withCase switch cases first b.document)
      (habsent : c.document.objectAt? (parent.casesAt switch ++ childSegments payload first.1) = none)
      (hissues : c.issues = b.issues ++ [astray w s!"Unable to find the child action collection of '{first.1}'"
        (String.intercalate "." (parent.base ++ parent.casesAt switch ++ childSegments payload first.1))]) :
      BranchExit w item parent b c none
  | default {payload : Payload} {switch : String} (hpayload : containerPayload w item b = some payload)
      (hswitch : Fields.names (parent.ofType b.document "Switch") = [switch]) (helse : item.name = "Else")
      (hthere : (b.document.objectAt? (parent.branchAt switch none)).isSome) (hdocument : c.document = b.document)
      (hissues : c.issues = b.issues) : BranchExit w item parent b c (some ⟨parent.base, parent.branchAt switch none⟩)
  | case {payload : Payload} {switch : String} {cases : Fields} {first : String × Json}
      (hpayload : containerPayload w item b = some payload) (hfirst : payload.firstAction? = some first)
      (hswitch : Fields.names (parent.ofType b.document "Switch") = [switch]) (helse : item.name ≠ "Else")
      (hcases : b.document.objectAt? (parent.casesAt switch) = some cases)
      (hdocument : c.document = parent.withCase switch cases first b.document)
      (hthere : (c.document.objectAt? (parent.casesAt switch ++ childSegments payload first.1)).isSome)
      (hissues : c.issues = b.issues) :
      BranchExit w item parent b c (some ⟨parent.base, parent.casesAt switch ++ childSegments payload first.1⟩)

variable {w : Workshop} {item : Item} {parent : Scope} {switch : String}

/-- What a container is converted by has a first action. -/
theorem exists_firstAction {p : Payload} {b c : Bench} (hrun : (renderContainer w item).run b = (.ok (some p), c)) :
    ∃ first, p.firstAction? = some first := by
  obtain ⟨snippet?, d, _, hrun⟩ := run_bind_ok hrun
  cases snippet? with
  | none => cases hrun
  | some snippet =>
      obtain ⟨payload, e, _, hrun⟩ := run_bind_ok hrun
      split at hrun
      · obtain ⟨_, f, _, hrun⟩ := run_bind_ok hrun
        cases hrun
      · next hactions =>
          cases hrun
          unfold Payload.firstAction?
          rcases hp : p.actions with _ | _ | ⟨first, rest⟩
          · simp [actionsOf, hp] at hactions
          · simp [actionsOf, hp] at hactions
          · exact ⟨first, rfl⟩

/-- A rendering of a container complains of snippets and their files alone. -/
theorem renderContainer_kind_ne {payload : Option Payload} {b c : Bench}
    (hrun : (renderContainer w item).run b = (.ok payload, c)) :
    ∀ i ∈ c.issues, i ∈ b.issues ∨ i.kind ≠ .structuralPathNotFound := by
  obtain ⟨snippet?, d, hresolve, hrun⟩ := run_bind_ok hrun
  have hfirst : ∀ i ∈ d.issues, i ∈ b.issues ∨ i.kind ≠ .structuralPathNotFound := by
    unfold resolve at hresolve
    split at hresolve
    · cases hresolve
      exact fun i hi => .inl hi
    · obtain ⟨_, e, hrecord, hresolve⟩ := run_bind_ok hresolve
      cases hresolve
      cases hrecord
      intro i hi
      rcases List.mem_append.mp hi with hbefore | hnew
      · exact .inl hbefore
      · rw [List.mem_singleton.mp hnew]
        exact .inr (by simp)
  cases snippet? with
  | none =>
      cases hrun
      exact hfirst
  | some snippet =>
      have hmisses : MissesOnly (render w (some item) snippet) :=
        .bind (renderJson_missesOnly _ _) fun _ => .of_issues_eq fun _ => rfl
      obtain ⟨rendered, e, hrender, hrun⟩ := run_bind_ok hrun
      have hsame : c.issues = e.issues := by
        split at hrun
        · obtain ⟨_, f, hdebug, hrun⟩ := run_bind_ok hrun
          cases hdebug
          cases hrun
          rfl
        · cases hrun
          rfl
      have hlast := hmisses d
      rw [hrender, ← hsame] at hlast
      intro i hi
      rcases hlast i hi with hbefore | hmissing
      · exact hfirst i hbefore
      · exact .inr (by simp [hmissing])

/-- The default of a switch is found, or its absence is said. -/
theorem locateElse_cases {found : Option Scope} {b c : Bench}
    (hrun : (locateElse w ⟨parent.base, parent.location ++ [switch]⟩ switch).run b = (.ok found, c)) :
    c = b ∧ (b.document.objectAt? (parent.branchAt switch none)).isSome ∧
        found = some ⟨parent.base, parent.branchAt switch none⟩ ∨
      b.document.objectAt? (parent.branchAt switch none) = none ∧ found = none ∧
        c = recorded (astray w s!"Switch '{switch}' has no default actions for the Else branch"
          s!"{(Scope.mk parent.base (parent.location ++ [switch])).pathText}.default.actions") b := by
  have hplace : (parent.location ++ [switch]) ++ ["default", "actions"] = parent.branchAt switch none := by
    simp [Scope.branchAt]
  rw [locateElse, run_get_bind, Scope.resolve_eq_map (fun h => by cases h)] at hrun
  dsimp only at hrun
  rw [hplace] at hrun
  cases hthere : b.document.objectAt? (parent.branchAt switch none) with
  | none =>
      rw [hthere] at hrun
      cases hrun
      exact .inr ⟨rfl, rfl, rfl⟩
  | some otherwise =>
      rw [hthere] at hrun
      cases hrun
      exact .inl ⟨rfl, rfl, rfl⟩

/-- The collection for the children of an action is found, or its absence is said. -/
theorem locateChildren_cases {payload : Payload} {action : String} {found : Option Scope} {b c : Bench}
    (hobject : (b.document.objectAt? parent.location).isSome)
    (hrun : (locateChildren w payload action parent).run b = (.ok found, c)) :
    c = b ∧ (b.document.objectAt? (parent.location ++ childSegments payload action)).isSome ∧
        found = some ⟨parent.base, parent.location ++ childSegments payload action⟩ ∨
      b.document.objectAt? (parent.location ++ childSegments payload action) = none ∧ found = none ∧
        c = recorded (astray w s!"Unable to find the child action collection of '{action}'"
          (String.intercalate "." (parent.path ++ childSegments payload action))) b := by
  rw [locateChildren, run_get_bind, Scope.resolve_eq_map fun _ => hobject] at hrun
  cases hthere : b.document.objectAt? (parent.location ++ childSegments payload action) with
  | none =>
      rw [hthere] at hrun
      cases hrun
      exact .inr ⟨rfl, rfl, rfl⟩
  | some children =>
      rw [hthere] at hrun
      cases hrun
      exact .inl ⟨rfl, rfl, rfl⟩

/-- What becomes of a branch that is no Else branch, in a scope that has one switch. -/
theorem openCase_exit {payload : Payload} {first : String × Json} {o : Opening} {b e c : Bench}
    (hpayload : containerPayload w item b = some payload) (hfirst : payload.firstAction? = some first)
    (hswitch : Fields.names (parent.ofType b.document "Switch") = [switch]) (helse : item.name ≠ "Else")
    (hdocument : e.document = b.document) (hissues : e.issues = b.issues)
    (hrun : (openCase w item payload ⟨parent.base, parent.location ++ [switch]⟩ switch first).run e = (.ok o, c)) :
    BranchExit w item parent b c o.scope := by
  have hplace : (parent.location ++ [switch]) ++ ["cases"] = parent.casesAt switch := by simp [Scope.casesAt]
  rw [openCase, run_get_bind, Scope.resolve_eq_map (fun h => by cases h)] at hrun
  dsimp only at hrun
  rw [hplace, hdocument] at hrun
  cases hcases : b.document.objectAt? (parent.casesAt switch) with
  | none =>
      rw [hcases] at hrun
      cases hrun
      exact .noCases hpayload hswitch helse hcases hdocument (by rw [← hissues]; rfl)
  | some cases =>
      rw [hcases] at hrun
      obtain ⟨added, f, hadd, hrun⟩ := run_bind_ok hrun
      obtain ⟨added', f', hadd', hsilent, hadded⟩ := addCase_run (hdocument ▸ hcases) first
      cases hadd'.symm.trans hadd
      rw [hissues] at hsilent
      rw [hdocument, ← Scope.withCase] at hadded
      have hthere : (f.document.objectAt? (parent.casesAt switch)).isSome := by
        rw [hadded, Scope.withCase, Json.objectAt?_modifyAt_const _ hcases]
        rfl
      -- Whether the case is new or not, a message is logged and the collection for the children is looked for.
      have hlast (own : Option Contribution) (level : Level) (logger name : String) (fields : Fields)
          (hrun : (do
              log level logger name fields
              return ⟨own, ← locateChildren w payload first.1 ⟨parent.base, parent.casesAt switch⟩⟩ :
                Build Opening).run f = (.ok o, c)) : BranchExit w item parent b c o.scope := by
        obtain ⟨_, g, hlog, hrun⟩ := run_bind_ok hrun
        cases hlog
        obtain ⟨found, g, hlocate, hrun⟩ := run_bind_ok hrun
        cases hrun
        rcases locateChildren_cases hthere hlocate with ⟨rfl, hsome, rfl⟩ | ⟨hnone, rfl, rfl⟩
        · exact .case hpayload hfirst hswitch helse hcases hadded hsome hsilent
        · exact .noChildren hpayload hfirst hswitch helse hcases hadded hnone (by rw [← hsilent]; rfl)
      dsimp only at hrun
      split at hrun
      · exact hlast _ .debug _ _ _ hrun
      · exact hlast _ .warning _ _ _ hrun

/-- Every conversion of a decision branch that ends well ends in one of the ways. -/
theorem convertBranch_exit {found : Option Scope} {b c : Bench}
    (hrun : (convertBranch w item parent).run b = (.ok found, c)) : BranchExit w item parent b c found := by
  obtain ⟨o, _, hopen, hrun⟩ := run_bind_ok hrun
  cases hrun
  obtain ⟨_, d, hdebug, hopen⟩ := run_bind_ok hopen
  have hlike : b.RendersLike d := (RendersNothing.debug _ _ _).like hdebug
  have hbefore : d.document = b.document ∧ d.issues = b.issues := by
    cases hdebug
    exact ⟨rfl, rfl⟩
  obtain ⟨payload?, e, hrender, hopen⟩ := run_bind_ok hopen
  have hpayload := containerPayload_eq hlike hrender
  have hdocument : e.document = b.document := (renderContainer_document_eq hrender).trans hbefore.1
  cases payload? with
  | none =>
      cases hopen
      exact .unrendered hpayload hdocument (hbefore.2 ▸ renderContainer_kind_ne hrender)
  | some payload =>
      have hissues : e.issues = b.issues := (renderContainer_issues hrender).trans hbefore.2
      obtain ⟨first, hfirst⟩ := exists_firstAction hrender
      dsimp only at hopen
      rw [hfirst] at hopen
      dsimp only at hopen
      rw [run_get_bind, hdocument] at hopen
      split at hopen
      · next switch body hswitches =>
          have hswitch : Fields.names (parent.ofType b.document "Switch") = [switch] := by
            rw [hswitches]
            rfl
          split at hopen
          · next helse =>
              obtain ⟨found, g, hlocate, hopen⟩ := run_bind_ok hopen
              cases hopen
              rcases locateElse_cases hlocate with ⟨rfl, hsome, rfl⟩ | ⟨hnone, rfl, rfl⟩
              · exact .default hpayload hswitch (eq_of_beq helse) (hdocument ▸ hsome) hdocument hissues
              · exact .noDefault hpayload hswitch (eq_of_beq helse) (hdocument ▸ hnone) hdocument
                  (by rw [← hissues]; rfl)
          · next helse =>
              exact openCase_exit hpayload hfirst hswitch (fun h => helse (by rw [h]; rfl)) hdocument hissues hopen
      · next hswitches =>
          cases hopen
          refine .noSwitch hpayload rfl (fun hone => ?_) hdocument (by rw [← hissues]; rfl)
          obtain ⟨⟨name, body⟩, hentry⟩ := List.length_eq_one_iff.mp hone
          exact hswitches name body hentry

end Build

open Build in
/-- A decision branch that is skipped has changed nothing, or has added its case to the one switch of the scope and then
found no collection for its children there. If there was something to convert it has said once what is missing. A branch
that is converted has recorded nothing, and what it opens is an object of the document: the default actions of the
switch for an Else branch, which changes nothing, and otherwise the cases or a place below them. -/
theorem branch_fails_atomically (w : Workshop) (item : Item) (parent : Scope) (b c : Bench) (found : Option Scope)
    (hrun : (ContainerHandler.decision.convert w item parent).run b = (.ok found, c)) :
    (found = none →
      (c.document = b.document ∧
          (containerPayload w item b = none ∨ (parent.ofType b.document "Switch").length ≠ 1 ∨
            ∃ switch, Fields.names (parent.ofType b.document "Switch") = [switch] ∧
              (item.name = "Else" ∧ b.document.objectAt? (parent.branchAt switch none) = none ∨
                item.name ≠ "Else" ∧ b.document.objectAt? (parent.casesAt switch) = none ∨
                item.name ≠ "Else" ∧ ∃ cases payload first, b.document.objectAt? (parent.casesAt switch) = some cases ∧
                  containerPayload w item b = some payload ∧ payload.firstAction? = some first ∧
                  first.1 ∈ Fields.names cases ∧
                  b.document.objectAt? (parent.casesAt switch ++ childSegments payload first.1) = none)) ∨
        ∃ switch cases payload first, Fields.names (parent.ofType b.document "Switch") = [switch] ∧
          item.name ≠ "Else" ∧ b.document.objectAt? (parent.casesAt switch) = some cases ∧
          containerPayload w item b = some payload ∧ payload.firstAction? = some first ∧
          first.1 ∉ Fields.names cases ∧
          c.document = (b.document.modifyAt (parent.casesAt switch) fun _ => .object (cases ++ [first])) ∧
          c.document.objectAt? (parent.casesAt switch ++ childSegments payload first.1) = none) ∧
      (∀ payload, containerPayload w item b = some payload →
        ∃ issue, issue.kind = .structuralPathNotFound ∧ c.issues = b.issues ++ [issue]) ∧
      (containerPayload w item b = none → ∀ i ∈ c.issues, i ∈ b.issues ∨ i.kind ≠ .structuralPathNotFound)) ∧
    (∀ scope, found = some scope → c.issues = b.issues ∧ (c.document.objectAt? scope.location).isSome ∧
      ∃ switch, Fields.names (parent.ofType b.document "Switch") = [switch] ∧
        (item.name = "Else" → scope.location = parent.branchAt switch none ∧ c.document = b.document) ∧
        (item.name ≠ "Else" → parent.casesAt switch <+: scope.location ∧
          ∃ cases payload first, b.document.objectAt? (parent.casesAt switch) = some cases ∧
            containerPayload w item b = some payload ∧ payload.firstAction? = some first ∧
            c.document = parent.withCase switch cases first b.document)) := by
  have hsays {payload : Payload} {message path : String} (hpayload : containerPayload w item b = some payload)
      (hissues : c.issues = b.issues ++ [astray w message path]) :
      (∀ payload, containerPayload w item b = some payload →
        ∃ issue, issue.kind = .structuralPathNotFound ∧ c.issues = b.issues ++ [issue]) ∧
      (containerPayload w item b = none → ∀ i ∈ c.issues, i ∈ b.issues ∨ i.kind ≠ .structuralPathNotFound) := by
    refine ⟨fun _ _ => ⟨_, rfl, hissues⟩, fun hnone => ?_⟩
    rw [hpayload] at hnone
    cases hnone
  cases convertBranch_exit hrun with
  | unrendered hpayload hdocument hissues =>
      refine ⟨fun _ => ⟨.inl ⟨hdocument, .inl hpayload⟩, fun payload hsome => ?_, fun _ => hissues⟩,
        fun _ h => by cases h⟩
      rw [hpayload] at hsome
      cases hsome
  | noSwitch hpayload hswitches hcount hdocument hissues =>
      subst hswitches
      exact ⟨fun _ => ⟨.inl ⟨hdocument, .inr (.inl hcount)⟩, hsays hpayload hissues⟩, fun _ h => by cases h⟩
  | noDefault hpayload hswitch helse habsent hdocument hissues =>
      exact ⟨fun _ => ⟨.inl ⟨hdocument, .inr (.inr ⟨_, hswitch, .inl ⟨helse, habsent⟩⟩)⟩, hsays hpayload hissues⟩,
        fun _ h => by cases h⟩
  | noCases hpayload hswitch helse habsent hdocument hissues =>
      exact ⟨fun _ => ⟨.inl ⟨hdocument, .inr (.inr ⟨_, hswitch, .inr (.inl ⟨helse, habsent⟩)⟩)⟩,
        hsays hpayload hissues⟩, fun _ h => by cases h⟩
  | @noChildren payload switch cases first hpayload hfirst hswitch helse hcases hdocument habsent hissues =>
      refine ⟨fun _ => ⟨?_, hsays hpayload hissues⟩, fun _ h => by cases h⟩
      by_cases hmem : first.1 ∈ Fields.names cases
      · have hsame : c.document = b.document := hdocument.trans (Scope.withCase_of_mem hcases hmem)
        rw [hsame] at habsent
        exact .inl ⟨hsame, .inr (.inr ⟨switch, hswitch, .inr (.inr ⟨helse, cases, payload, first, hcases, hpayload,
          hfirst, hmem, habsent⟩)⟩)⟩
      · exact .inr ⟨switch, cases, payload, first, hswitch, helse, hcases, hpayload, hfirst, hmem,
          hdocument.trans (Scope.withCase_of_not_mem hmem _), habsent⟩
  | default _ hswitch helse hthere hdocument hissues =>
      refine ⟨fun h => (by cases h), fun scope hscope => ?_⟩
      cases hscope
      exact ⟨hissues, hdocument.symm ▸ hthere, _, hswitch, fun _ => ⟨rfl, hdocument⟩, fun h => absurd helse h⟩
  | case hpayload hfirst hswitch helse hcases hdocument hthere hissues =>
      refine ⟨fun h => (by cases h), fun scope hscope => ?_⟩
      cases hscope
      exact ⟨hissues, hthere, _, hswitch, fun h => absurd h helse,
        fun _ => ⟨List.prefix_append _ _, _, _, _, hcases, hpayload, hfirst, hdocument⟩⟩

/-- The bench with a switch, where containers render an action that has no actions in it. -/
def barrenBench : Bench :=
  { switchBench with
    disk :=
      { switchBench.disk with
        entries :=
          [(["container.json"], .file (.text "\x7b\"workflowDefinitionAction\": \x7b\"X\": \x7b\x7d\x7d\x7d"))] } }

def barrenBranch : Item := .ofActivity (Place.workflow.child 0) (switchBranches.headD default)

/-- A branch that adds its case and is skipped then: the case is the only change, and one issue is recorded. -/
theorem branch_fails_atomically_barren :
    ∃ c, (ContainerHandler.decision.convert plainWorkshop barrenBranch plainScope).run barrenBench = (.ok none, c) ∧
      (∃ issue, issue.kind = .structuralPathNotFound ∧ c.issues = barrenBench.issues ++ [issue]) ∧
      ∃ body, c.document = barrenBench.document.modifyAt (plainScope.casesAt "D") fun _ =>
        .object (switchCases ++ [("X", body)]) := by
  obtain ⟨found, c, hrun, hfound, hcases, hpayload⟩ : ∃ found c,
      (ContainerHandler.decision.convert plainWorkshop barrenBranch plainScope).run barrenBench = (.ok found, c) ∧
        found = none ∧ (c.document.objectAt? (plainScope.casesAt "D")).map Fields.names = some ["Old", "X"] ∧
        (Build.containerPayload plainWorkshop barrenBranch barrenBench).isSome :=
    Build.exists_run _ (by decide +kernel)
  subst hfound
  obtain ⟨payload, hpayload⟩ := Option.isSome_iff_exists.mp hpayload
  obtain ⟨hchange, hissue, _⟩ :=
    (branch_fails_atomically plainWorkshop barrenBranch plainScope barrenBench c none hrun).1 rfl
  refine ⟨c, hrun, hissue payload hpayload, ?_⟩
  have hbefore : barrenBench.document.objectAt? (plainScope.casesAt "D") = some switchCases := rfl
  rcases hchange with ⟨hsame, _⟩ | ⟨switch, cases, payload, first, hswitch, _, hthere, _, _, _, hdocument, _⟩
  · rw [hsame, hbefore] at hcases
    exact absurd hcases (by decide)
  · have hname : switch = "D" := by
      have honly : Fields.names (plainScope.ofType barrenBench.document "Switch") = ["D"] := by decide
      exact (List.cons.inj (honly.symm.trans hswitch)).1.symm
    subst hname
    obtain rfl : cases = switchCases := Option.some.inj (hthere.symm.trans hbefore)
    rw [hdocument, Json.objectAt?_modifyAt_const _ hbefore, Option.map_some, Fields.names_append] at hcases
    obtain ⟨name, body⟩ := first
    have hlast : name = "X" := (List.cons.inj (List.cons.inj (Option.some.inj hcases)).2).1
    exact ⟨body, hlast ▸ hdocument⟩

end WorkflowForge
