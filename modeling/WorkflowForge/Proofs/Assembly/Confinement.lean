import WorkflowForge.Proofs.Assembly.Switches

/-!
Assembly keeps to the scope it is given. Whatever a container brings, however deep its tree is and wherever its snippets
send its children, the document afterwards is the document before with another value at the place of the scope; this
holds of an assembly that is skipped or that fails in the middle as well. What comes in behind the conversion of the
container, the pre-built actions and the children, differs at the place that the conversion opened, and that place is
at or below the scope.
-/

namespace WorkflowForge

namespace Json

/-- A change at a place leaves what is at a place beside it. -/
theorem at?_modifyAt_of_beside {place other : List String} (f : Json → Json) (v : Json) (hbelow : ¬ place <+: other)
    (habove : ¬ other <+: place) : (v.modifyAt place f).at? other = v.at? other := by
  induction place generalizing v other with
  | nil => exact absurd List.nil_prefix hbelow
  | cons name more ih =>
      cases other with
      | nil => exact absurd List.nil_prefix habove
      | cons first rest =>
          cases v with
          | object fields =>
              simp only [at?_cons, modifyAt, field?]
              by_cases heq : first = name
              · subst heq
                rw [Fields.get?_modify_self]
                cases Fields.get? fields first with
                | none => rfl
                | some w =>
                    exact ih w (fun h => hbelow (List.cons_prefix_cons.mpr ⟨rfl, h⟩))
                      (fun h => habove (List.cons_prefix_cons.mpr ⟨rfl, h⟩))
              · rw [Fields.get?_modify_of_ne _ fields heq]
          | _ => rfl

/-- Two values that are the same but for what is at a place. -/
def DifferAt (place : List String) (old new : Json) : Prop := ∃ v, new = old.modifyAt place fun _ => v

namespace DifferAt

variable {place other : List String} {old middle new : Json}

theorem modifyAt (place : List String) (f : Json → Json) (v : Json) : DifferAt place v (v.modifyAt place f) := by
  cases hplace : v.at? place with
  | none => exact ⟨.null, by rw [modifyAt_of_absent f hplace, modifyAt_of_absent _ hplace]⟩
  | some w =>
      refine ⟨f w, modifyAt_congr fun x hx => ?_⟩
      rw [hplace] at hx
      cases hx
      rfl

theorem refl (place : List String) (v : Json) : DifferAt place v v := by
  have hsame := modifyAt place id v
  rwa [modifyAt_id] at hsame

theorem trans (h₁ : DifferAt place old middle) (h₂ : DifferAt place middle new) : DifferAt place old new := by
  obtain ⟨v, rfl⟩ := h₁
  obtain ⟨u, rfl⟩ := h₂
  exact ⟨u, modifyAt_modifyAt place _ _ old⟩

/-- What differs below a place differs at the place. -/
theorem widen {wide : List String} (h : wide <+: place) (hdiffer : DifferAt place old new) :
    DifferAt wide old new := by
  obtain ⟨more, rfl⟩ := h
  obtain ⟨v, rfl⟩ := hdiffer
  rw [modifyAt_append]
  exact modifyAt wide _ old

theorem at?_eq (h : DifferAt place old new) (hbelow : ¬ place <+: other) (habove : ¬ other <+: place) :
    new.at? other = old.at? other := by
  obtain ⟨v, rfl⟩ := h
  exact at?_modifyAt_of_beside _ old hbelow habove

/-- What is new is at the place or below it. -/
theorem isPrefix_of_new (h : DifferAt place old new) (hold : old.at? other = none) (hnew : (new.at? other).isSome) :
    place <+: other := by
  by_contra hbelow
  by_cases habove : other <+: place
  · -- With nothing at the other place there is nothing below it, and no change.
    obtain ⟨more, rfl⟩ := habove
    obtain ⟨v, rfl⟩ := h
    have habsent : old.at? (other ++ more) = none := by
      rw [at?_append, hold]
      rfl
    rw [modifyAt_of_absent _ habsent, hold] at hnew
    cases hnew
  · rw [h.at?_eq hbelow habove, hold] at hnew
    cases hnew

end DifferAt

end Json

/-- Moves within a place change nothing elsewhere. -/
theorem Moves.differAt {w : Workshop} {within : List String} {b c : Bench} (h : Moves w within b c) :
    Json.DifferAt within b.document c.document := by
  refine Moves.preserves (R := fun b c => Json.DifferAt within b.document c.document) (fun b => .refl _ _)
    (fun h₁ h₂ => h₁.trans h₂) (fun hmove => ?_) h
  cases hmove with
  | add s hwithin name body =>
      unfold Scope.add
      split
      · exact .refl _ _
      · exact (Json.DifferAt.modifyAt s.location _ _).widen hwithin
  | _ => exact .refl _ _

namespace Build

variable {w : Workshop}

theorem assembleContainer_composed (item : Item) (parent : Scope) (place : Place) (activities : List Activity) :
    IsComposed w .plain parent.location (assembleContainer w .standard item parent fun scope =>
      assembleActivities w .standard place scope 0 activities) := by
  have hitem : Terms.plain.diagonal.on item item := ⟨rfl, trivial⟩
  have hself : Activity.CorrespondIn Terms.plain.diagonal.on place 0 activities activities :=
    Activity.correspondIn_self place 0 activities fun _ _ _ _ _ _ => ⟨rfl, trivial⟩
  exact (assembleContainer_paired Registry.standard_builtIn rfl hitem parent (List.prefix_refl _) _ _
    fun scope hscope => assembleActivities_paired Registry.standard_builtIn rfl place scope hscope 0 activities
      activities hself).alone

/-- The stages of an assembly that ends with a container converted. -/
theorem assembleContainer_converted {item : Item} {parent : Scope} {children : Scope → Build Unit} {b c : Bench}
    (hrun : (assembleContainer w .standard item parent children).run b = (.ok true, c)) :
    ∃ scope o d, ((Registry.standard.containerHandler item.type).convert w item parent).run b = (.ok (some scope), o) ∧
      (stock w item scope).run o = (.ok (), d) ∧ (children scope).run d = (.ok (), c) := by
  rw [assembleContainer_stock] at hrun
  obtain ⟨⟨own, scope?⟩, o, hopening, hrun⟩ := run_bind_ok hrun
  cases scope? with
  | none =>
      obtain ⟨_, d, _, hrun⟩ := run_bind_ok hrun
      cases hrun
  | some scope =>
      obtain ⟨_, d, hstock, hrun⟩ := run_bind_ok hrun
      obtain ⟨_, e, hchildren, hrun⟩ := run_bind_ok hrun
      cases hrun
      refine ⟨scope, o, d, ?_, hstock, hchildren⟩
      rw [convert_container, run_bind, hopening]
      rfl

theorem convert_below {item : Item} {parent scope : Scope} {b c : Bench}
    (hrun : ((Registry.standard.containerHandler item.type).convert w item parent).run b = (.ok (some scope), c)) :
    parent.location <+: scope.location := by
  rw [convert_container] at hrun
  obtain ⟨o, d, hopening, hrun⟩ := run_bind_ok hrun
  injection hrun with hresult _
  injection hresult with hscope
  exact (opening_composed item parent).post hopening scope hscope

end Build

open Build in
/-- However the assembly of a container ends, the document is the same but for what is at the scope, so that everything
beside the scope is as it was. If the container is converted, what comes in behind the conversion, the pre-built actions
and all that the children bring, is at the place that the conversion opened or below it, and that place is at the scope
or below it. -/
theorem assembly_confined_to_scope (w : Workshop) (item : Item) (parent : Scope) (place : Place)
    (activities : List Activity) (b c : Bench) (r : Except Fault Bool)
    (hrun : (assembleContainer w .standard item parent fun scope =>
      assembleActivities w .standard place scope 0 activities).run b = (r, c)) :
    Json.DifferAt parent.location b.document c.document ∧
    (∀ other, ¬ parent.location <+: other → ¬ other <+: parent.location →
      c.document.at? other = b.document.at? other) ∧
    (r = .ok true → ∃ scope o d,
      ((Registry.standard.containerHandler item.type).convert w item parent).run b = (.ok (some scope), o) ∧
      (stock w item scope).run o = (.ok (), d) ∧
      (assembleActivities w .standard place scope 0 activities).run d = (.ok (), c) ∧
      parent.location <+: scope.location ∧
      Json.DifferAt scope.location o.document d.document ∧ Json.DifferAt scope.location d.document c.document ∧
      ∀ other, o.document.at? other = none → (c.document.at? other).isSome → scope.location <+: other) := by
  have hdiffer := ((assembleContainer_composed item parent place activities).does.moves hrun).differAt
  refine ⟨hdiffer, fun other hbelow habove => hdiffer.at?_eq hbelow habove, fun hconverted => ?_⟩
  subst hconverted
  obtain ⟨scope, o, d, hconvert, hstock, hchildren⟩ := assembleContainer_converted hrun
  have hprebuilt : Json.DifferAt scope.location o.document d.document :=
    ((stock_composed item scope).does.moves hstock).differAt
  have hfilled : Json.DifferAt scope.location d.document c.document :=
    ((assembleActivities_composed place scope 0 activities).does.moves hchildren).differAt
  exact ⟨scope, o, d, hconvert, hstock, hchildren, convert_below hconvert, hprebuilt, hfilled,
    fun other hold hnew => (hprebuilt.trans hfilled).isPrefix_of_new hold hnew⟩

/-- The document with a switch, and something beside the collection that the switch is in. -/
def besideBench : Bench :=
  { switchBench with
    document := .object [("kept", .bool true), ("actions", (switchBench.document.at? ["actions"]).getD .null)] }

open Build in
/-- A branch that is converted: what is beside the scope stays, and the action of its child is in what it opened. -/
theorem assembly_confined_to_scope_branch :
    ∃ (item : Item) (scope : Scope) (o c : Bench),
      ((Registry.standard.containerHandler item.type).convert plainWorkshop item plainScope).run besideBench =
        (.ok (some scope), o) ∧
      (assembleContainer plainWorkshop .standard item plainScope fun scope =>
        assembleActivities plainWorkshop .standard item.place scope 0 [.leaf default]).run besideBench = (.ok true, c) ∧
      c.document.at? ["kept"] = some (.bool true) ∧ plainScope.location <+: scope.location ∧
      Json.DifferAt scope.location o.document c.document ∧
      (c.document.at? ["actions", "D", "cases", "X", "actions", "Y"]).isSome := by
  let item : Item := .ofActivity (Place.workflow.child 0) (switchBranches.headD default)
  obtain ⟨r, c, hrun, hr, hthere⟩ : ∃ r c, (assembleContainer plainWorkshop .standard item plainScope fun scope =>
      assembleActivities plainWorkshop .standard item.place scope 0 [.leaf default]).run besideBench = (.ok r, c) ∧
        r = true ∧ (c.document.at? ["actions", "D", "cases", "X", "actions", "Y"]).isSome :=
    Build.exists_run _ (by decide +kernel)
  subst hr
  obtain ⟨_, hbeside, hconverted⟩ := assembly_confined_to_scope plainWorkshop item plainScope item.place
    [.leaf default] besideBench c (.ok true) hrun
  obtain ⟨scope, o, d, hconvert, _, _, hscope, hprebuilt, hfilled, _⟩ := hconverted rfl
  exact ⟨item, scope, o, c, hconvert, hrun, hbeside ["kept"] (by decide) (by decide), hscope,
    hprebuilt.trans hfilled, hthere⟩

end WorkflowForge
