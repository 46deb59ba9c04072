import WorkflowForge.Proofs.Assembly.BranchAtomicity
import WorkflowForge.Proofs.Assembly.ChildCollection

/-!
Assembling a second time changes nothing. After an assembly that found every place it looked for, the document has all
names that were offered, each in its collection, and it goes on having them however it grows. The second assembly is
offered the same actions, finds all their names taken, and comes to the same collections. The one thing that can be
different is that there are more switches beside a decision branch now; then the branch is skipped.

What is offered is the same as long as the searches for snippets come to the same. They need not if a text that is kept
for inspection gets in their way.
-/

namespace WorkflowForge

namespace Fields

theorem free_eq_nil {taken : List String} {offers : Fields} (h : ∀ name ∈ names offers, name ∈ taken) :
    free taken offers = [] := by
  induction offers with
  | nil => rfl
  | cons field rest ih =>
      rw [free, if_pos (h field.1 List.mem_cons_self)]
      exact ih fun name hname => h name (List.mem_cons_of_mem _ hname)

/-- What a condition on bodies picks out is picked out still after a change that the condition outlasts. -/
theorem names_filter_modify_sublist (p : Json → Bool) (name : String) {f : Json → Json}
    (hf : ∀ v, p v = true → p (f v) = true) (fields : Fields) :
    (names (fields.filter fun entry => p entry.2)).Sublist
      (names ((modify name f fields).filter fun entry => p entry.2)) := by
  induction fields with
  | nil => exact .slnil
  | cons field rest ih =>
      obtain ⟨key, v⟩ := field
      by_cases hkey : key = name
      · simp only [modify, hkey, beq_self_eq_true, if_true, List.filter_cons]
        by_cases hv : p v = true
        · rw [if_pos hv, if_pos (hf v hv)]
          exact .refl _
        · rw [if_neg hv]
          split
          · exact .cons _ (.refl _)
          · exact .refl _
      · simp only [modify, beq_iff_eq, hkey, if_false, List.filter_cons]
        split
        · exact .cons_cons _ ih
        · exact ih

end Fields

/-! ## What lasts -/

namespace Scope

theorem ofType_cons (base : List String) (name : String) (rest : List String) (fields : Fields) (type : String) :
    ofType ⟨base, name :: rest⟩ (.object fields) type =
      ((Fields.get? fields name).map fun v => ofType ⟨base, rest⟩ v type).getD [] := by
  unfold ofType entries
  rw [Json.objectAt?_cons]
  change ((((Fields.get? fields name).bind _).getD []).filter _) = _
  cases Fields.get? fields name <;> rfl

/-- The entries of a type are still of the type after a field was added anywhere. -/
theorem names_ofType_addAt (s : Scope) (document : Json) (type : String) (place : List String) (name : String)
    (body : Json) :
    (Fields.names (s.ofType document type)).Sublist
      (Fields.names (s.ofType (document.addAt place name body) type)) := by
  obtain ⟨base, location⟩ := s
  induction place generalizing document location with
  | nil =>
      cases document with
      | object fields =>
          have hadded : (Json.object fields).addAt [] name body = .object (fields ++ [(name, body)]) := rfl
          rw [hadded]
          cases location with
          | nil =>
              change (Fields.names (fields.filter _)).Sublist (Fields.names ((fields ++ [(name, body)]).filter _))
              rw [List.filter_append, Fields.names_append]
              exact List.sublist_append_left _ _
          | cons key rest =>
              rw [ofType_cons, ofType_cons]
              by_cases hkey : key ∈ Fields.names fields
              · rw [Fields.get?_append_of_mem _ hkey]
              · rw [(Fields.get?_eq_none_iff fields key).mpr hkey]
                exact List.nil_sublist _
      | _ => exact .refl _
  | cons first more ih =>
      cases document with
      | object fields =>
          have hadded : (Json.object fields).addAt (first :: more) name body =
              .object (Fields.modify first (fun v => v.addAt more name body) fields) := rfl
          rw [hadded]
          cases location with
          | nil =>
              refine Fields.names_filter_modify_sublist (fun v => (v.field? "type").bind Json.asString? == some type)
                first (fun v hv => ?_) fields
              obtain ⟨text, htext, hstring⟩ := Option.bind_eq_some_iff.mp (eq_of_beq hv)
              obtain ⟨grown, hgrown, hgrows⟩ := (Json.Grows.addAt v more name body).field? htext
              cases hgrows with
              | other => rwa [hgrown, ← htext]
              | object => cases hstring
          | cons key rest =>
              rw [ofType_cons, ofType_cons]
              by_cases hkey : key = first
              · rw [hkey, Fields.get?_modify_self]
                cases Fields.get? fields first with
                | none => exact .refl _
                | some v => exact ih v rest
              · rw [Fields.get?_modify_of_ne _ fields hkey]
      | _ => exact .refl _

end Scope

/-- What there is in one document is there in another, and the entries of a type are so still. -/
structure Json.LastsIn (old new : Json) : Prop where
  grows : old.Grows new
  ofType (s : Scope) (type : String) :
    (Fields.names (s.ofType old type)).Sublist (Fields.names (s.ofType new type))

namespace Json.LastsIn

theorem refl (v : Json) : LastsIn v v := ⟨.refl v, fun _ _ => .refl _⟩

theorem trans {u v x : Json} (huv : LastsIn u v) (hvx : LastsIn v x) : LastsIn u x :=
  ⟨huv.grows.trans hvx.grows, fun s type => (huv.ofType s type).trans (hvx.ofType s type)⟩

theorem isSome {old new : Json} (h : LastsIn old new) {place : List String} (hold : (old.objectAt? place).isSome) :
    (new.objectAt? place).isSome := by
  obtain ⟨fields, hfields⟩ := Option.isSome_iff_exists.mp hold
  obtain ⟨grown, hgrown, _⟩ := h.grows.objectAt? hfields
  rw [hgrown]
  rfl

end Json.LastsIn

theorem Moves.lastsIn {w : Workshop} {within : List String} {b c : Bench} (h : Moves w within b c) :
    b.document.LastsIn c.document := by
  refine ⟨h.grows, fun s type => ?_⟩
  refine Moves.preserves (R := fun b c => (Fields.names (s.ofType b.document type)).Sublist
    (Fields.names (s.ofType c.document type))) (fun _ => .refl _) List.Sublist.trans (fun hmove => ?_) h
  cases hmove with
  | add t _ name body =>
      unfold Scope.add
      split
      · exact .refl _
      · exact s.names_ofType_addAt _ type t.location name body
  | _ => exact .refl _

theorem Moves.wellFormed {w : Workshop} {within : List String} {b c : Bench} (h : Moves w within b c)
    (hb : b.disk.WellFormed) : c.disk.WellFormed := by
  refine Moves.preserves (R := fun b c => b.disk.WellFormed → c.disk.WellFormed) (fun _ => id)
    (fun hfirst hsecond hformed => hsecond (hfirst hformed)) (fun hmove hformed => ?_) h hb
  cases hmove with
  | keep snippet item source text id =>
      dsimp only
      exact hformed.writeText _ _
  | copy snippet item source id =>
      dsimp only
      exact hformed.copyFile _ _
  | _ => exact hformed

theorem Moves.issues_isPrefix {w : Workshop} {within : List String} {b c : Bench} (h : Moves w within b c) :
    b.issues <+: c.issues := by
  refine Moves.preserves (R := fun b c => b.issues <+: c.issues) (fun _ => List.prefix_refl _) List.IsPrefix.trans
    (fun hmove => ?_) h
  cases hmove with
  | record kind message path => exact List.prefix_append _ _
  | _ => exact List.prefix_refl _

/-- From one bench to another no place was found missing. -/
def Bench.NoneAstray (b c : Bench) : Prop :=
  ∀ i ∈ c.issues.drop b.issues.length, i.kind ≠ .structuralPathNotFound

instance (b c : Bench) : Decidable (b.NoneAstray c) :=
  inferInstanceAs (Decidable (∀ i ∈ c.issues.drop b.issues.length, i.kind ≠ .structuralPathNotFound))

namespace Bench.NoneAstray

variable {b c d : Bench}

theorem first (h : b.NoneAstray c) (hdc : d.issues <+: c.issues) : b.NoneAstray d := by
  intro i hi
  exact h i ((hdc.drop _).subset hi)

theorem rest (h : b.NoneAstray c) (hbd : b.issues <+: d.issues) : d.NoneAstray c := by
  intro i hi
  obtain ⟨more, hmore⟩ := hbd
  rw [← hmore, List.length_append, ← List.drop_drop] at hi
  exact h i (List.mem_of_mem_drop hi)

/-- If a missing place was recorded, it was not so. -/
theorem not_recorded (h : b.NoneAstray c) (hbd : b.issues <+: d.issues) {w : Workshop} {message path : String}
    (hc : c.issues = d.issues ++ [Build.astray w message path]) : False := by
  refine h.rest hbd (Build.astray w message path) ?_ rfl
  rw [hc, List.drop_left]
  exact List.mem_singleton_self _

end Bench.NoneAstray

/-- A collection has all the names that it is offered. -/
def Json.HasAll (document : Json) (place : List String) (offers : Fields) : Prop :=
  ∃ entries, document.objectAt? place = some entries ∧ ∀ name ∈ Fields.names offers, name ∈ Fields.names entries

namespace Json.HasAll

variable {old new : Json} {place : List String} {offers : Fields}

theorem lastsIn (h : old.HasAll place offers) (hlasts : old.LastsIn new) : new.HasAll place offers := by
  obtain ⟨entries, hentries, hall⟩ := h
  obtain ⟨grown, hgrown, hgrows⟩ := hlasts.grows.objectAt? hentries
  exact ⟨grown, hgrown, fun name hname => hgrows.names_isPrefix.subset (hall name hname)⟩

theorem isSome (h : old.HasAll place offers) : (old.objectAt? place).isSome := by
  obtain ⟨entries, hentries, _⟩ := h
  rw [hentries]
  rfl

/-- After entries were added where their names were free, all names are there. -/
theorem of_modifyAt {entries : Fields} (hentries : old.objectAt? place = some entries)
    (hnew : new = old.modifyAt place fun _ => .object (entries ++ Fields.free (Fields.names entries) offers)) :
    new.HasAll place offers := by
  refine ⟨_, hnew ▸ Json.objectAt?_modifyAt_const _ hentries, fun name hname => ?_⟩
  rw [Fields.names_append]
  exact List.mem_append.mpr (Fields.mem_names_free hname)

end Json.HasAll

/-! ## The second time -/

namespace Build

variable {w : Workshop} {document : Json} {α β : Type}

/-- A build that leaves a document as it is, from benches of some kind, and a property of what it gives. -/
def Keeps (document : Json) (P : Bench → Prop) (x : Build α) (post : α → Prop) : Prop :=
  ∀ ⦃b c : Bench⦄ ⦃r : Except Fault α⦄, x.run b = (r, c) → P b → b.document = document →
    c.document = document ∧ ∀ a, r = .ok a → post a

namespace Keeps

variable {P Q : Bench → Prop}

theorem pure {a : α} {post : α → Prop} (h : post a) : Keeps document P (Pure.pure a) post := by
  intro b c r hrun _ hdocument
  cases hrun
  refine ⟨hdocument, fun a' ha => ?_⟩
  cases ha
  exact h

theorem done {a : α} : Keeps document P (Pure.pure a) fun _ => True := pure trivial

theorem mono {x : Build α} {post weaker : α → Prop} (hx : Keeps document P x post) (h : ∀ a, post a → weaker a) :
    Keeps document P x weaker := by
  intro b c r hrun hb hdocument
  obtain ⟨hsame, hpost⟩ := hx hrun hb hdocument
  exact ⟨hsame, fun a ha => h a (hpost a ha)⟩

/-- A build that leaves every document leaves this one. -/
theorem of_does {x : Build α} {post : α → Prop} (hx : ∀ within, Does w within x post) : Keeps document P x post := by
  intro b c r hrun _ hdocument
  refine ⟨(Does.document_eq hx hrun).trans hdocument, fun a ha => ?_⟩
  exact (hx [] b).2 a (by rw [hrun]; exact ha)

theorem bind {x : Build α} {f : α → Build β} {mid : α → Prop} {post : β → Prop} (hx : Keeps document P x mid)
    (hpass : ∀ b a c, x.run b = (.ok a, c) → P b → Q c) (hf : ∀ a, mid a → Keeps document Q (f a) post) :
    Keeps document P (x >>= f) post := by
  intro b c r hrun hb hdocument
  rw [run_bind] at hrun
  cases hfirst : x.run b with
  | mk r₁ d =>
      obtain ⟨hsame, hmid⟩ := hx hfirst hb hdocument
      rw [hfirst] at hrun
      cases r₁ with
      | error e =>
          cases hrun
          exact ⟨hsame, fun a ha => by cases ha⟩
      | ok a => exact hf a (hmid a rfl) hrun (hpass b a d hfirst hb) hsame

/-- The rule for a step after which nothing is rendered. -/
theorem andThen {x : Build α} {f : α → Build β} {mid : α → Prop} {post : β → Prop} (hx : Keeps document P x mid)
    (hf : ∀ a, mid a → Keeps document (fun _ => True) (f a) post) : Keeps document P (x >>= f) post :=
  hx.bind (fun _ _ _ _ _ => trivial) hf

theorem read {f : Bench → Build α} {post : α → Prop} (hf : ∀ b, b.document = document → Keeps document P (f b) post) :
    Keeps document P (MonadState.get >>= f) post := by
  intro b c r hrun hb hdocument
  rw [run_get_bind] at hrun
  exact hf b hdocument hrun hb hdocument

theorem debug (logger name : String) (fields : Fields) :
    Keeps document P (Build.debug logger name fields) fun _ => True :=
  of_does (w := default) fun _ => debug_acts _ _ _

theorem warning (logger name : String) (fields : Fields) :
    Keeps document P (Build.warning logger name fields) fun _ => True :=
  of_does (w := default) fun _ => warning_acts _ _ _

theorem record (kind : IssueKind) (message : String) (path : Option String) :
    Keeps document P (Build.record w kind message path) fun _ => True :=
  of_does (w := w) fun _ => record_acts _ _ _

/-- A name that is taken is not added. -/
theorem add {s : Scope} {name : String} {body : Json} (h : document.HasAll s.location [(name, body)]) :
    Keeps document P (Build.add s name body) (· = false) := by
  intro b c r hrun _ hdocument
  obtain ⟨entries, hentries, hall⟩ := h
  rw [add_run s name body b (hdocument ▸ hentries), if_pos (hall name List.mem_cons_self)] at hrun
  cases hrun
  refine ⟨hdocument, fun added hadded => ?_⟩
  cases hadded
  rfl

theorem insertActions {s : Scope} {actions : Fields} (h : document.HasAll s.location actions) (source : String) :
    Keeps document P (Build.insertActions w s source actions) fun _ => True := by
  intro b c r hrun _ hdocument
  obtain ⟨entries, hentries, hall⟩ := h
  rw [← hdocument] at hentries ⊢
  obtain ⟨d, hinsert, hinserted⟩ := insertActions_run (w := w) s source actions b hentries
  cases hrun.symm.trans hinsert
  rw [Fields.free_eq_nil hall, List.append_nil,
    Json.modifyAt_const ((Json.objectAt?_eq_some_iff _ _ _).mp hentries)] at hinserted
  exact ⟨hinserted, fun _ _ => trivial⟩

/-- A collection for children that is there is found. -/
theorem locateChildren {payload : Payload} {action : String} {parent : Scope}
    (h : (document.objectAt? (parent.location ++ childSegments payload action)).isSome) :
    Keeps document P (Build.locateChildren w payload action parent)
      (· = some ⟨parent.base, parent.location ++ childSegments payload action⟩) := by
  refine read fun b hb => ?_
  rw [← hb] at h
  rw [Scope.resolve_of_isSome h]
  exact pure rfl

/-- A default that is there is found. -/
theorem locateElse {parent : Scope} {switch : String}
    (h : (document.objectAt? (parent.branchAt switch none)).isSome) :
    Keeps document P (Build.locateElse w ⟨parent.base, parent.location ++ [switch]⟩ switch)
      (· = some ⟨parent.base, parent.branchAt switch none⟩) := by
  have hplace : parent.branchAt switch none = (parent.location ++ [switch]) ++ ["default", "actions"] := by
    simp [Scope.branchAt]
  rw [hplace] at h ⊢
  refine read fun b hb => ?_
  rw [← hb] at h
  rw [Scope.resolve_of_isSome h]
  exact pure rfl

/-- A case that is there is not added, and its collection for children is found. -/
theorem openCase {item : Item} {payload : Payload} {parent : Scope} {switch : String} {first : String × Json}
    (hcase : document.HasAll (parent.casesAt switch) [first])
    (h : (document.objectAt? (parent.casesAt switch ++ childSegments payload first.1)).isSome) :
    Keeps document P (Build.openCase w item payload ⟨parent.base, parent.location ++ [switch]⟩ switch first)
      fun o => o.scope = some ⟨parent.base, parent.casesAt switch ++ childSegments payload first.1⟩ := by
  have hplace : parent.casesAt switch = (parent.location ++ [switch]) ++ ["cases"] := by simp [Scope.casesAt]
  rw [hplace] at hcase h ⊢
  refine read fun b hb => ?_
  have hcases := hcase.isSome
  rw [← hb] at hcases
  rw [Scope.resolve_of_isSome hcases]
  refine andThen (add hcase) fun added hadded => ?_
  rw [hadded]
  refine andThen (warning _ _ _) fun _ _ => ?_
  exact andThen (locateChildren h) fun found hfound => pure hfound

end Keeps

section Sight

variable {seen : Disk}

/-- The kind of benches on which the searches for snippets come to what they come to on a given disk. -/
def Sees (w : Workshop) (seen : Disk) (b : Bench) : Prop := w.SeesSame seen b.disk

theorem Sees.passes {x : Build α} (hx : RendersNothing x) (b : Bench) (a : α) (c : Bench)
    (hrun : x.run b = (.ok a, c)) (hb : Sees w seen b) : Sees w seen c := by
  unfold Sees
  rw [(hx.like hrun).disk]
  exact hb

/-- A rendering comes to the same twice. -/
theorem render_same (hplain : w.IsPlain seen) {item : Option Item} {snippet : Snippet}
    (hsnippet : snippet ∈ w.manager.snippets) {b c b' c' : Bench} {p p' : Option Payload} (hb : Sees w seen b)
    (hb' : Sees w seen b') (hrun : (render w item snippet).run b = (.ok p, c))
    (hrun' : (render w item snippet).run b' = (.ok p', c')) : p' = p := by
  have hresult {b c : Bench} {p : Option Payload} (hb : Sees w seen b)
      (hrun : (render w item snippet).run b = (.ok p, c)) :
      ∃ v, plainResult w snippet seen = .ok v ∧ p = v.map Payload.ofJson := by
    obtain ⟨v, d, hrender, hrun⟩ := run_bind_ok hrun
    cases hrun
    have hplain' := (renderJson_of_isPlain (hplain.of_seesSame hb) hsnippet hrender (unhindered_ok v)).1
    rw [(plain_eq rfl rfl hb hsnippet).1] at hplain'
    exact ⟨v, hplain'.symm, rfl⟩
  obtain ⟨v, hv, rfl⟩ := hresult hb hrun
  obtain ⟨v', hv', rfl⟩ := hresult hb' hrun'
  cases hv.symm.trans hv'
  rfl

theorem renderContainer_same (hplain : w.IsPlain seen) {item : Item} {b c b' c' : Bench} {p p' : Option Payload}
    (hb : Sees w seen b) (hb' : Sees w seen b') (hrun : (renderContainer w item).run b = (.ok p, c))
    (hrun' : (renderContainer w item).run b' = (.ok p', c')) : p' = p := by
  obtain ⟨found, d, hresolve, hrun⟩ := run_bind_ok hrun
  obtain ⟨found', d', hresolve', hrun'⟩ := run_bind_ok hrun'
  have hd := Sees.passes (.resolve _ _) b found d hresolve hb
  have hd' := Sees.passes (.resolve _ _) b' found' d' hresolve' hb'
  have hfound := resolve_ok hresolve
  cases hfound.trans (resolve_ok hresolve').symm
  cases found with
  | none =>
      cases hrun
      cases hrun'
      rfl
  | some snippet =>
      obtain ⟨payload, e, hrender, hrun⟩ := run_bind_ok hrun
      obtain ⟨payload', e', hrender', hrun'⟩ := run_bind_ok hrun'
      cases render_same hplain (ProcessManager.mem_of_resolve hfound.symm) hd hd' hrender hrender'
      split at hrun
      · next hempty =>
          rw [if_pos hempty] at hrun'
          obtain ⟨_, f, _, hrun⟩ := run_bind_ok hrun
          obtain ⟨_, f', _, hrun'⟩ := run_bind_ok hrun'
          cases hrun
          cases hrun'
          rfl
      · next hempty =>
          rw [if_neg hempty] at hrun'
          cases hrun
          cases hrun'
          rfl

section Found

variable {item : Item} {parent : Scope} {o : Opening} {b c : Bench}

/-- What there is after a container was opened, where no place was missing: all that it offered beside itself, and the
collection for its children. -/
theorem openContainer_found (hobject : (b.document.objectAt? parent.location).isSome) (hsilent : b.NoneAstray c)
    (hrun : (openContainer w item parent).run b = (.ok o, c)) :
    ∃ rendered e, (renderContainer w item).run b = (.ok rendered, e) ∧
      (rendered = none ∧ o.scope = none ∨
        ∃ payload first, rendered = some payload ∧ payload.firstAction? = some first ∧
          c.document.HasAll parent.location (payload.actions.getD []) ∧
          (c.document.objectAt? (parent.location ++ childSegments payload first.1)).isSome ∧
          o.scope = some ⟨parent.base, parent.location ++ childSegments payload first.1⟩) := by
  have hitem : Terms.plain.diagonal.on item item := ⟨rfl, trivial⟩
  obtain ⟨_, d, hdebug, hrun⟩ := run_bind_ok hrun
  obtain ⟨rendered, e, hrender, hrun⟩ := run_bind_ok hrun
  have hlike := (RendersNothing.debug _ _ _).like hdebug
  obtain ⟨e', hrender', _⟩ := (Uniform.renderContainer item).run_eq hlike.symm hrender
  refine ⟨rendered, e', hrender', ?_⟩
  cases rendered with
  | none =>
      cases hrun
      exact .inl ⟨rfl, rfl⟩
  | some payload =>
      obtain ⟨first, hfirst⟩ := exists_firstAction hrender
      dsimp only at hrun
      rw [hfirst] at hrun
      obtain ⟨inserted, f, hinsert, hrun⟩ := run_bind_ok hrun
      obtain ⟨found, g, hlocate, hrun⟩ := run_bind_ok hrun
      cases hrun
      have hrendering : Moves w [] b e :=
        .trans ((debug_acts _ _ _).moves hdebug) ((renderContainer_paired rfl hitem).alone.does.moves hrender)
      have hinserting : Moves w [] e f :=
        (insertActions_paired parent List.nil_prefix item.name item.name _).alone.does.moves hinsert
      have hprefix := hrendering.issues_isPrefix.trans hinserting.issues_isPrefix
      obtain ⟨entries, hentries⟩ := Option.isSome_iff_exists.mp (hrendering.lastsIn.isSome hobject)
      obtain ⟨f', hinsert', hinserted⟩ :=
        insertActions_run (w := w) parent item.name (payload.actions.getD []) e hentries
      cases hinsert.symm.trans hinsert'
      have hall : f.document.HasAll parent.location (payload.actions.getD []) := .of_modifyAt hentries hinserted
      rcases locateChildren_cases hall.isSome hlocate with ⟨rfl, hsome, rfl⟩ | ⟨_, _, rfl⟩
      · exact .inr ⟨payload, first, rfl, hfirst, hall, hsome, rfl⟩
      · exact (hsilent.not_recorded hprefix rfl).elim

/-- What there is after a branch was put into a switch, where no place was missing: the one switch, and in it the
default, or the case of the branch with the collection for its children. -/
theorem openBranch_found (hsilent : b.NoneAstray c) (hrun : (openBranch w item parent).run b = (.ok o, c)) :
    ∃ rendered e, (renderContainer w item).run b = (.ok rendered, e) ∧
      (rendered = none ∧ o.scope = none ∨
        ∃ payload first switch, rendered = some payload ∧ payload.firstAction? = some first ∧
          Fields.names (parent.ofType b.document "Switch") = [switch] ∧
          (item.name = "Else" ∧ (c.document.objectAt? (parent.branchAt switch none)).isSome ∧
              o.scope = some ⟨parent.base, parent.branchAt switch none⟩ ∨
            item.name ≠ "Else" ∧ c.document.HasAll (parent.casesAt switch) [first] ∧
              (c.document.objectAt? (parent.casesAt switch ++ childSegments payload first.1)).isSome ∧
              o.scope = some ⟨parent.base, parent.casesAt switch ++ childSegments payload first.1⟩)) := by
  have hconvert : (convertBranch w item parent).run b = (.ok o.scope, c) := by
    rw [convertBranch, run_bind, hrun]
    rfl
  obtain ⟨_, d, hdebug, hrun⟩ := run_bind_ok hrun
  obtain ⟨rendered, e, hrender, _⟩ := run_bind_ok hrun
  have hlike := (RendersNothing.debug _ _ _).like hdebug
  obtain ⟨e', hrender', _⟩ := (Uniform.renderContainer item).run_eq hlike.symm hrender
  have hpayload := containerPayload_eq hlike hrender
  refine ⟨rendered, e', hrender', ?_⟩
  generalize o.scope = found at hconvert ⊢
  cases convertBranch_exit hconvert with
  | unrendered hnone => exact .inl ⟨hpayload.symm.trans hnone, rfl⟩
  | noSwitch _ _ _ _ hissues => exact (hsilent.not_recorded (List.prefix_refl _) hissues).elim
  | noDefault _ _ _ _ _ hissues => exact (hsilent.not_recorded (List.prefix_refl _) hissues).elim
  | noCases _ _ _ _ _ hissues => exact (hsilent.not_recorded (List.prefix_refl _) hissues).elim
  | noChildren _ _ _ _ _ _ _ hissues => exact (hsilent.not_recorded (List.prefix_refl _) hissues).elim
  | @default payload switch hsome hswitch helse hthere hdocument _ =>
      cases hpayload.symm.trans hsome
      obtain ⟨first, hfirst⟩ := exists_firstAction hrender
      exact .inr ⟨payload, first, switch, rfl, hfirst, hswitch, .inl ⟨helse, hdocument ▸ hthere, rfl⟩⟩
  | @case payload switch cases first hsome hfirst hswitch helse hcases hdocument hthere _ =>
      cases hpayload.symm.trans hsome
      exact .inr ⟨payload, first, switch, rfl, hfirst, hswitch,
        .inr ⟨helse, .of_modifyAt hcases hdocument, hthere, rfl⟩⟩

end Found

section Stages

variable (hplain : w.IsPlain seen) {item : Item} {parent scope : Scope} {b c : Bench}

include hplain

theorem renderContainer_keeps {p : Option Payload} (hb : Sees w seen b)
    (hrun : (renderContainer w item).run b = (.ok p, c)) :
    Keeps document (Sees w seen) (renderContainer w item) (· = p) := by
  intro b' c' r' hrun' hb' hdocument
  refine ⟨(renderContainer_document_eq hrun').trans hdocument, ?_⟩
  rintro p' rfl
  exact renderContainer_same hplain hb hb' hrun hrun'

/-- What was contributed once is not contributed again. -/
theorem contribute_keeps {source : String} {snippet : Snippet} {own : Option Contribution}
    (hsnippet : snippet ∈ w.manager.snippets) (hb : Sees w seen b)
    (hobject : (b.document.objectAt? scope.location).isSome) (hlasts : c.document.LastsIn document)
    (hrun : (contribute w item scope source snippet).run b = (.ok own, c)) :
    Keeps document (Sees w seen) (contribute w item scope source snippet) fun _ => True := by
  obtain ⟨payload, d, hrender, hrun⟩ := run_bind_ok hrun
  obtain ⟨inserted, e, hinsert, hrun⟩ := run_bind_ok hrun
  cases hrun
  have hall : c.document.HasAll scope.location (actionsOf payload) := by
    rw [← Does.document_eq (fun _ => render_acts _ _) hrender] at hobject
    obtain ⟨entries, hentries⟩ := Option.isSome_iff_exists.mp hobject
    obtain ⟨e', hinsert', hdocument⟩ := insertActions_run (w := w) scope source (actionsOf payload) d hentries
    cases hinsert.symm.trans hinsert'
    exact .of_modifyAt hentries hdocument
  have hagain : Keeps document (Sees w seen) (render w (some item) snippet) (· = payload) := by
    intro b' c' r' hrun' hb' hdocument
    refine ⟨(Does.document_eq (fun _ => render_acts _ _) hrun').trans hdocument, ?_⟩
    rintro payload' rfl
    exact render_same hplain hsnippet hb hb' hrender hrun'
  refine .andThen hagain fun payload' hsame => ?_
  rw [hsame]
  exact .andThen (.insertActions (hall.lastsIn hlasts) source) fun _ _ => .done

/-- A container that was opened is opened again, and nothing is added beside it. -/
theorem openContainer_keeps {o : Opening} (hb : Sees w seen b) (hobject : (b.document.objectAt? parent.location).isSome)
    (hsilent : b.NoneAstray c) (hlasts : c.document.LastsIn document)
    (hrun : (openContainer w item parent).run b = (.ok o, c)) :
    Keeps document (Sees w seen) (openContainer w item parent) fun o' => o'.scope = o.scope := by
  obtain ⟨rendered, e, hrender, hfound⟩ := openContainer_found hobject hsilent hrun
  refine .bind (.debug _ _ _) (Sees.passes (.debug _ _ _)) fun _ _ => ?_
  refine .andThen (renderContainer_keeps hplain hb hrender) fun rendered' hsame => ?_
  rw [hsame]
  rcases hfound with ⟨rfl, hnone⟩ | ⟨payload, first, rfl, hfirst, hall, hsome, hscope⟩
  · exact .pure hnone.symm
  · dsimp only
    rw [hfirst]
    refine .andThen (.insertActions (hall.lastsIn hlasts) _) fun _ _ => ?_
    refine .andThen (.locateChildren (hlasts.isSome hsome)) fun found hlocated => ?_
    exact .pure (hlocated.trans hscope.symm)

/-- The branch is put into the same switch again, unless there are more switches now; nothing is added. -/
theorem openBranch_keeps {o : Opening} (hb : Sees w seen b) (hsilent : b.NoneAstray c)
    (hlasts : c.document.LastsIn document) (hrun : (openBranch w item parent).run b = (.ok o, c)) :
    Keeps document (Sees w seen) (openBranch w item parent) fun o' => o'.scope = none ∨ o'.scope = o.scope := by
  have hitem : Terms.plain.diagonal.on item item := ⟨rfl, trivial⟩
  have hlasted : b.document.LastsIn c.document :=
    ((openBranch_paired rfl hitem parent (List.prefix_refl _)).alone.does.moves hrun).lastsIn
  obtain ⟨rendered, e, hrender, hfound⟩ := openBranch_found hsilent hrun
  refine .bind (.debug _ _ _) (Sees.passes (.debug _ _ _)) fun _ _ => ?_
  refine .andThen (renderContainer_keeps hplain hb hrender) fun rendered' hsame => ?_
  rw [hsame]
  rcases hfound with ⟨rfl, hnone⟩ | ⟨payload, first, switch, rfl, hfirst, hswitch, hplace⟩
  · exact .pure (.inl rfl)
  · dsimp only
    rw [hfirst]
    refine .read fun b' hb' => ?_
    rw [hb']
    have hlater := (hlasted.trans hlasts).ofType parent "Switch"
    rw [hswitch] at hlater
    split
    · next name body hone =>
        obtain rfl : switch = name := by
          rw [hone] at hlater
          exact List.singleton_sublist.mp hlater |> List.mem_singleton.mp
        rcases hplace with ⟨helse, hsome, hscope⟩ | ⟨helse, hall, hsome, hscope⟩
        · rw [if_pos (by simpa using helse)]
          refine .andThen (.locateElse (hlasts.isSome hsome)) fun found hfound => ?_
          exact .pure (.inr (hfound.trans hscope.symm))
        · rw [if_neg (by simpa using helse)]
          refine .mono (.openCase (hall.lastsIn hlasts) (hlasts.isSome hsome)) fun o' ho' => ?_
          exact .inr (ho'.trans hscope.symm)
    · exact .andThen (.record _ _ _) fun _ _ => .pure (.inl rfl)

/-- Whatever a container opened, it opens the same again or nothing. -/
theorem opening_keeps {o : Opening} (hb : Sees w seen b) (hobject : (b.document.objectAt? parent.location).isSome)
    (hsilent : b.NoneAstray c) (hlasts : c.document.LastsIn document)
    (hrun : (opening w item parent).run b = (.ok o, c)) :
    Keeps document (Sees w seen) (opening w item parent) fun o' => o'.scope = none ∨ o'.scope = o.scope := by
  unfold opening at hrun ⊢
  split at hrun
  · next hbranch =>
      rw [if_pos hbranch]
      exact openBranch_keeps hplain hb hsilent hlasts hrun
  · next hbranch =>
      rw [if_neg hbranch]
      exact (openContainer_keeps hplain hb hobject hsilent hlasts hrun).mono fun _ hsame => .inr hsame

theorem activityContributions_keeps {own : List Contribution} (hb : Sees w seen b)
    (hobject : (b.document.objectAt? parent.location).isSome) (hlasts : c.document.LastsIn document)
    (hrun : (activityContributions w item parent).run b = (.ok own, c)) :
    Keeps document (Sees w seen) (activityContributions w item parent) fun _ => True := by
  obtain ⟨_, d, hdebug, hrun⟩ := run_bind_ok hrun
  obtain ⟨found, e, hresolve, hrun⟩ := run_bind_ok hrun
  have hd := Sees.passes (.debug _ _ _) b _ d hdebug hb
  have he := Sees.passes (.resolve _ _) d _ e hresolve hd
  have hsame : e.document = b.document :=
    (Does.document_eq (fun _ => resolve_acts _ _) hresolve).trans (debug_document_eq hdebug)
  have hfound := resolve_ok hresolve
  have hagain : Keeps document (Sees w seen) (resolve w "activity" (some item.type)) (· = found) := by
    intro b' c' r' hrun' _ hdocument
    refine ⟨(Does.document_eq (fun _ => resolve_acts _ _) hrun').trans hdocument, ?_⟩
    rintro found' rfl
    exact (resolve_ok hrun').trans hfound.symm
  refine .bind (.debug _ _ _) (Sees.passes (.debug _ _ _)) fun _ _ => ?_
  refine .bind hagain (Sees.passes (.resolve _ _)) fun found' hfound' => ?_
  rw [hfound']
  cases found with
  | none => exact .done
  | some snippet =>
      obtain ⟨first, f, hfirst, hrun⟩ := run_bind_ok hrun
      cases hrun
      have hsnippet := ProcessManager.mem_of_resolve hfound.symm
      exact .andThen (contribute_keeps hplain hsnippet he (hsame ▸ hobject) hlasts hfirst) fun _ _ => .done

end Stages

end Sight

/-- A build that leaves a document as it is on the way from one bench to another, and a property of what it gives. -/
def Leaves (start final : Bench) (document : Json) (x : Build α) (post : α → Prop) : Prop :=
  ∀ ⦃b c : Bench⦄ ⦃r : Except Fault α⦄, x.run b = (r, c) → start.Between final b → start.Between final c →
    b.document = document → c.document = document ∧ ∀ a, r = .ok a → post a

namespace Leaves

variable {start final : Bench}

theorem of_keeps {P : Bench → Prop} {x : Build α} {post : α → Prop} (hx : Keeps document P x post)
    (h : ∀ b, start.Between final b → P b) : Leaves start final document x post :=
  fun b _ _ hrun hb _ hdocument => hx hrun (h b hb) hdocument

theorem done {a : α} : Leaves start final document (Pure.pure a : Build α) fun _ => True :=
  of_keeps (P := fun _ => True) .done fun _ _ => trivial

theorem bind {x : Build α} {f : α → Build β} {mid : α → Prop} {post : β → Prop}
    (hx : Leaves start final document x mid) (hproper : w.generationPath.IsProper) (hfirst : IsComposed w .plain [] x)
    (hrest : ∀ a, IsComposed w .plain [] (f a)) (hf : ∀ a, mid a → Leaves start final document (f a) post) :
    Leaves start final document (x >>= f) post := by
  intro b c r hrun hb hc hdocument
  have htold := hfirst.isTold hproper
  cases hfirst : x.run b with
  | mk r₁ d =>
      have hd := hb.mid hc htold (fun a _ => (hrest a).isTold hproper) hfirst hrun
      obtain ⟨hsame, hmid⟩ := hx hfirst hb hd hdocument
      rw [run_bind, hfirst] at hrun
      cases r₁ with
      | error e =>
          cases hrun
          exact ⟨hsame, fun a ha => by cases ha⟩
      | ok a => exact hf a (hmid a rfl) hrun hd hc hsame

end Leaves

/-- A stretch of the first assembly: no place was missing on it, and what it has done lasts in a document. -/
structure Stretch (start final : Bench) (document : Json) (b c : Bench) : Prop where
  before : start.Between final b
  after : start.Between final c
  silent : b.NoneAstray c
  lasts : c.document.LastsIn document

theorem Stretch.split {start final b c d : Bench} {x : Build α} {y : Build β} {r : Except Fault α}
    {s : Except Fault β} (h : Stretch start final document b c) (hproper : w.generationPath.IsProper)
    (hx : IsComposed w .plain [] x) (hy : IsComposed w .plain [] y) (hfirst : x.run b = (r, d))
    (hrest : y.run d = (s, c)) : Stretch start final document b d ∧ Stretch start final document d c := by
  have hbefore : Moves w [] b d := hx.does.moves hfirst
  have hafter : Moves w [] d c := hy.does.moves hrest
  have hd := h.before.of_runs h.after (hx.isTold hproper) (hy.isTold hproper) hfirst hrest
  exact ⟨⟨h.before, hd, h.silent.first hafter.issues_isPrefix, hafter.lastsIn.trans h.lasts⟩,
    ⟨hd, h.after, h.silent.rest hbefore.issues_isPrefix, h.lasts⟩⟩

/-- Two assemblies in which the searches for snippets come to the same, and no snippet is a template. -/
structure Rerun (w : Workshop) (seen : Disk) (start final again last : Bench) : Prop where
  plain : w.IsPlain seen
  proper : w.generationPath.IsProper
  first : ∀ b, start.Between final b → Sees w seen b
  second : ∀ b, again.Between last b → Sees w seen b

section Rerun

variable {seen : Disk} {start final again last : Bench} (h : Rerun w seen start final again last)
  {item : Item} {parent scope : Scope} {b c : Bench}

include h

theorem contributeAll_leaves {source : Snippet → String} {snippets : List Snippet} {own : List Contribution}
    (hsnippets : ∀ s ∈ snippets, s ∈ w.manager.snippets) (hstretch : Stretch start final document b c)
    (hobject : (b.document.objectAt? scope.location).isSome)
    (hrun : (contributeAll w item scope source snippets).run b = (.ok own, c)) :
    Leaves again last document (contributeAll w item scope source snippets) fun _ => True := by
  induction snippets generalizing b own with
  | nil => exact .done
  | cons snippet rest ih =>
      rw [List.forall_mem_cons] at hsnippets
      have hitem : Terms.plain.diagonal.on item item := ⟨rfl, trivial⟩
      have hone : IsComposed w .plain [] (contribute w item scope (source snippet) snippet) :=
        (contribute_paired hitem scope List.nil_prefix _ (source snippet) _ hsnippets.1).alone
      have hothers : IsComposed w .plain [] (contributeAll w item scope source rest) :=
        (contributeAll_paired hitem scope List.nil_prefix _ source _ hsnippets.2).alone
      obtain ⟨first, d, hfirst, hrun⟩ := run_bind_ok hrun
      obtain ⟨more, e, hmore, hrun⟩ := run_bind_ok hrun
      cases hrun
      obtain ⟨hleft, hright⟩ := hstretch.split h.proper hone hothers hfirst hmore
      have hthere := ((hone.does.moves hfirst).lastsIn).isSome hobject
      have hkeeps := contribute_keeps h.plain hsnippets.1 (h.first b hleft.before) hobject hleft.lasts hfirst
      refine .bind (.of_keeps hkeeps h.second) h.proper hone (fun _ => .andThen hothers fun _ => .done) fun _ _ => ?_
      exact .bind (ih hsnippets.2 hright hthere hmore) h.proper hothers (fun _ => .done) fun _ _ => .done

theorem leafContributions_leaves {own : List Contribution} (hstretch : Stretch start final document b c)
    (hobject : (b.document.objectAt? parent.location).isSome)
    (hrun : (leafContributions w item parent).run b = (.ok own, c)) :
    Leaves again last document (leafContributions w item parent) fun _ => True := by
  have hactivity {b : Bench} (hb : Sees w seen b) (hobject : (b.document.objectAt? parent.location).isSome)
      (hrun : (activityContributions w item parent).run b = (.ok own, c)) :
      Keeps document (Sees w seen) (activityContributions w item parent) fun _ => True :=
    activityContributions_keeps h.plain hb hobject hstretch.lasts hrun
  have hb := h.first b hstretch.before
  have hchannel {kind : String} (hrun : (channelContributions kind w item parent).run b = (.ok own, c)) :
      Leaves again last document (channelContributions kind w item parent) fun _ => True := by
    unfold channelContributions at hrun ⊢
    dsimp only at hrun ⊢
    split at hrun
    · obtain ⟨_, d, hdebug, hrun⟩ := run_bind_ok hrun
      have hsame : d.document = b.document := debug_document_eq hdebug
      have hkeeps := hactivity (Sees.passes (.debug _ _ _) b _ d hdebug hb) (hsame ▸ hobject) hrun
      exact .of_keeps (.bind (.debug _ _ _) (Sees.passes (.debug _ _ _)) fun _ _ => hkeeps) h.second
    · exact contributeAll_leaves h (fun s => ProcessManager.mem_of_mem_snippetsBelow) hstretch hobject hrun
  unfold leafContributions at hrun ⊢
  split at hrun
  · next hreceive =>
      rw [if_pos hreceive]
      exact hchannel hrun
  · next hreceive =>
      rw [if_neg hreceive]
      split at hrun
      · next hsend =>
          rw [if_pos hsend]
          exact hchannel hrun
      · next hsend =>
          rw [if_neg hsend]
          exact .of_keeps (hactivity hb hobject hrun) h.second

theorem convert_leaf_leaves {r : Bool} (hstretch : Stretch start final document b c)
    (hobject : (b.document.objectAt? parent.location).isSome)
    (hrun : ((Registry.standard.activityHandler item.type).convert w item parent).run b = (.ok r, c)) :
    Leaves again last document ((Registry.standard.activityHandler item.type).convert w item parent)
      fun _ => True := by
  have hitem : Terms.plain.diagonal.on item item := ⟨rfl, trivial⟩
  have hcomposed : IsComposed w .plain [] (leafContributions w item parent) := by
    unfold leafContributions
    split
    · exact (channelContributions_paired rfl _ hitem parent List.nil_prefix).alone
    · split
      · exact (channelContributions_paired rfl _ hitem parent List.nil_prefix).alone
      · exact (activityContributions_paired rfl hitem parent List.nil_prefix).alone
  rw [convert_leaf] at hrun ⊢
  obtain ⟨own, d, hown, hrun⟩ := run_bind_ok hrun
  cases hrun
  exact .bind (leafContributions_leaves h hstretch hobject hown) h.proper hcomposed (fun _ => .done) fun _ _ => .done

theorem stock_leaves (hstretch : Stretch start final document b c)
    (hobject : (b.document.objectAt? scope.location).isSome) (hrun : (stock w item scope).run b = (.ok (), c)) :
    Leaves again last document (stock w item scope) fun _ => True := by
  have hitem : Terms.plain.diagonal.on item item := ⟨rfl, trivial⟩
  have hprebuilt : IsComposed w .plain [] (prebuiltContributions w item scope) :=
    (prebuiltContributions_paired rfl hitem scope List.nil_prefix).alone
  have hadd : IsComposed w .plain [] (addPrebuilt w item scope) := .andThen hprebuilt fun _ => .done
  have htell (count : Nat) : IsComposed w .plain [] (if count != 0 then
      debug "flowsmith.assembly.assembler" "prebuilt_actions_added"
        [("workflow", .string w.manager.name), ("container", .string item.name), ("count", .int count)]
      else Pure.pure ()) := by
    split
    · exact .debug _ _ _ (by decide)
    · exact .done
  obtain ⟨count, d, hcount, htold⟩ := run_bind_ok hrun
  obtain ⟨hleft, _⟩ := hstretch.split h.proper hadd (htell count) hcount htold
  obtain ⟨own, e, hown, hcount⟩ := run_bind_ok hcount
  cases hcount
  have hleaves : Leaves again last document (prebuiltContributions w item scope) fun _ => True := by
    unfold prebuiltContributions at hown ⊢
    split at hown
    · next hempty =>
        rw [if_pos hempty]
        exact .done
    · next hempty =>
        rw [if_neg hempty]
        exact contributeAll_leaves h (fun s => ProcessManager.mem_of_mem_snippetsBelow) hleft hobject hown
  have hadding : Leaves again last document (addPrebuilt w item scope) fun _ => True :=
    .bind hleaves h.proper hprebuilt (fun _ => .done) fun _ _ => .done
  refine .bind hadding h.proper hadd htell fun count _ => ?_
  split
  · exact .of_keeps (.debug _ _ _) h.second
  · exact .done

/-- A container whose first assembly found all places leaves the document, if its children do. -/
theorem assembleContainer_leaves {children : Scope → Build Unit} {r : Bool}
    (hcomposed : ∀ scope, IsComposed w .plain [] (children scope))
    (hchildren : ∀ scope d, Stretch start final document d c → (d.document.objectAt? scope.location).isSome →
      (children scope).run d = (.ok (), c) → Leaves again last document (children scope) fun _ => True)
    (hstretch : Stretch start final document b c) (hobject : (b.document.objectAt? parent.location).isSome)
    (hrun : (assembleContainer w .standard item parent children).run b = (.ok r, c)) :
    Leaves again last document (assembleContainer w .standard item parent children) fun _ => True := by
  have hopen : IsComposed w .plain [] (opening w item parent) :=
    (opening_composed item parent).forget.widen List.nil_prefix
  have hstocked (scope : Scope) : IsComposed w .plain [] (stock w item scope) :=
    (stock_composed item scope).widen List.nil_prefix
  have hskip : IsComposed w .plain [] (do
      debug "flowsmith.assembly.assembler" "container_skipped"
        [("workflow", .string w.manager.name), ("container", .string item.name)]
      return false) := .andThen (.debug _ _ _ (by decide)) fun _ => .done
  have hfill (scope : Scope) : IsComposed w .plain [] (do
      stock w item scope
      children scope
      return true) := .andThen (hstocked scope) fun _ => .andThen (hcomposed scope) fun _ => .done
  rw [assembleContainer_stock] at hrun ⊢
  obtain ⟨⟨own, found⟩, d, hopening, hrun⟩ := run_bind_ok hrun
  -- The first stretch ends where the container was opened, whether it was skipped then or filled.
  have hleft : Stretch start final document b d := by
    cases found with
    | none => exact (hstretch.split h.proper hopen hskip hopening hrun).1
    | some scope => exact (hstretch.split h.proper hopen (hfill scope) hopening hrun).1
  have hkeeps := opening_keeps h.plain (h.first b hleft.before) hobject hleft.silent hleft.lasts hopening
  refine .bind (.of_keeps hkeeps h.second) h.proper hopen (fun o => ?_) fun o ho => ?_
  · obtain ⟨_, _ | scope⟩ := o
    · exact hskip
    · exact hfill scope
  · obtain ⟨_, _ | scope⟩ := o
    · exact .of_keeps (.bind (.debug _ _ _) (Sees.passes (.debug _ _ _)) fun _ _ => .done) h.second
    · obtain hnone | rfl := ho
      · cases hnone
      · have hright := (hstretch.split h.proper hopen (hfill scope) hopening hrun).2
        obtain ⟨_, e, hstock, hrun⟩ := run_bind_ok hrun
        obtain ⟨_, f, hfilled, hrun⟩ := run_bind_ok hrun
        cases hrun
        obtain ⟨hstocking, hfilling⟩ := hright.split h.proper (hstocked scope) (hcomposed scope) hstock hfilled
        have hthere := opening_isSome hopening rfl hobject
        have hthere' := ((hstocked scope).does.moves hstock).lastsIn.isSome hthere
        refine .bind (stock_leaves h hstocking hthere hstock) h.proper (hstocked scope)
          (fun _ => .andThen (hcomposed scope) fun _ => .done) fun _ _ => ?_
        exact .bind (hchildren scope e hfilling hthere' hfilled) h.proper (hcomposed scope) (fun _ => .done)
          fun _ _ => .done

mutual

/-- An activity that was assembled adds nothing the second time. -/
theorem assembleActivity_leaves {place : Place} {parent : Scope} {b c : Bench} {r : Bool} :
    (a : Activity) → Stretch start final document b c → (b.document.objectAt? parent.location).isSome →
      (assembleActivity w .standard place parent a).run b = (.ok r, c) →
        Leaves again last document (assembleActivity w .standard place parent a) fun _ => True
  | .leaf e, hstretch, hobject, hrun => by
      let item := Item.ofActivity place (.leaf e)
      rw [assembleActivity] at hrun ⊢
      have hrun : ((Registry.standard.activityHandler item.type).convert w item parent).run b = (.ok r, c) := hrun
      exact convert_leaf_leaves h hstretch hobject hrun
  | .container e activities vars messages, hstretch, hobject, hrun => by
      rw [assembleActivity] at hrun ⊢
      refine assembleContainer_leaves h
        (fun scope => (assembleActivities_composed place scope 0 activities).widen List.nil_prefix)
        (fun scope d hfilling hthere hfilled => ?_) hstretch hobject hrun
      exact assembleActivities_leaves activities hfilling hthere hfilled

theorem assembleActivities_leaves {place : Place} {scope : Scope} {index : Nat} {b c : Bench} :
    (activities : List Activity) → Stretch start final document b c →
      (b.document.objectAt? scope.location).isSome →
        (assembleActivities w .standard place scope index activities).run b = (.ok (), c) →
          Leaves again last document (assembleActivities w .standard place scope index activities) fun _ => True
  | [], _, _, _ => by
      rw [assembleActivities]
      exact .done
  | a :: rest, hstretch, hobject, hrun => by
      have hself : a.Corresponds Terms.plain.diagonal.on (place.child index) a :=
        Activity.corresponds_self _ a fun _ _ _ => ⟨rfl, trivial⟩
      have hone : IsComposed w .plain [] (assembleActivity w .standard (place.child index) scope a) :=
        (assembleActivity_paired Registry.standard_builtIn rfl _ scope List.nil_prefix a a hself).alone
      have hothers : IsComposed w .plain [] (assembleActivities w .standard place scope (index + 1) rest) :=
        (assembleActivities_composed place scope (index + 1) rest).widen List.nil_prefix
      have hdiscarded : IsComposed w .plain [] (discard (assembleActivity w .standard (place.child index) scope a)) :=
        .andThen hone fun _ => .done
      obtain ⟨r, d, hfirst, hrest⟩ := assembleActivities_cons_run hrun
      obtain ⟨hleft, hright⟩ := hstretch.split h.proper hone hothers hfirst hrest
      have hthere := (hone.does.moves hfirst).lastsIn.isSome hobject
      have hleaves : Leaves again last document (discard (assembleActivity w .standard (place.child index) scope a))
          fun _ => True :=
        .bind (assembleActivity_leaves a hleft hobject hfirst) h.proper hone (fun _ => .done) fun _ _ => .done
      rw [assembleActivities]
      exact .bind hleaves h.proper hdiscarded (fun _ => hothers) fun _ _ =>
        assembleActivities_leaves rest hright hthere hrest

end

end Rerun

end Build

open Build in
/-- Assembling a workflow a second time changes nothing. If its first assembly ended well and found every place it
looked for, and no snippet is a template, then a second one on the resulting document leaves it as it is, however it
ends and with whatever numbers, stamps and issues it begins; provided that in either nothing gets in the way of a
search for a snippet. -/
theorem reassembly_changes_nothing (w : Workshop) (flow : Workflow) (parent : Scope) (b c again last : Bench) (r : Bool)
    (result : Except Fault Bool) (hplain : w.IsPlain b.disk) (hdisk : b.disk.WellFormed)
    (hproper : w.generationPath.IsProper) (hobject : (b.document.objectAt? parent.location).isSome)
    (hrun : (assembleWorkflow w .standard flow parent).run b = (.ok r, c)) (hsilent : b.NoneAstray c)
    (hquiet : w.Quiet b c) (hdocument : again.document = c.document) (hsame : again.disk = c.disk)
    (hrerun : (assembleWorkflow w .standard flow parent).run again = (result, last)) (hquiet' : w.Quiet again last) :
    last.document = c.document := by
  have hself : flow.Corresponds Terms.plain.diagonal.on flow := Workflow.corresponds_self fun _ _ => ⟨rfl, trivial⟩
  have hcomposed : IsComposed w .plain [] (assembleWorkflow w .standard flow parent) :=
    (assembleWorkflow_paired Registry.standard_builtIn rfl hself parent List.nil_prefix).alone
  have hmoves : Moves w [] b c := hcomposed.does.moves hrun
  have htold := hcomposed.isTold hproper
  have hfirst : Told (fun _ => True) b.journal b.disk c.journal c.disk := by
    have hall := htold b
    rwa [hrun] at hall
  have hsecond : Told (fun _ => True) again.journal again.disk last.journal last.disk := by
    have hall := htold again
    rwa [hrerun] at hall
  have hbetween : w.SeesSame b.disk again.disk := by
    rw [hsame]
    exact Bench.Between.seesSame ⟨hfirst, .refl _ _⟩ hdisk hquiet
  have hagain : again.disk.WellFormed := by
    rw [hsame]
    exact hmoves.wellFormed hdisk
  have h : Rerun w b.disk b c again last :=
    { plain := hplain
      proper := hproper
      first := fun d hd => hd.seesSame hdisk hquiet
      second := fun d hd => hbetween.trans (hd.seesSame hagain hquiet') }
  have hstretch : Stretch b c c.document b c :=
    ⟨⟨.refl _ _, hfirst⟩, ⟨hfirst, .refl _ _⟩, hsilent, .refl _⟩
  have hleaves : Leaves again last c.document (assembleWorkflow w .standard flow parent) fun _ => True := by
    refine assembleContainer_leaves h
      (fun scope => (assembleActivities_composed _ scope 0 flow.activities).widen List.nil_prefix)
      (fun scope d hfilling hthere hfilled => ?_) hstretch hobject hrun
    exact assembleActivities_leaves h flow.activities hfilling hthere hfilled
  exact (hleaves hrerun ⟨.refl _ _, hsecond⟩ ⟨hsecond, .refl _ _⟩ hdocument).1

/-- The plain workshop where the text of each activity's snippet is kept for inspection. -/
def twoSwitchWorkshop : Workshop :=
  { plainWorkshop with
    generationPath := .ofText "generated"
    manager :=
      { plainWorkshop.manager with
        snippets :=
          [⟨Snippet.placeholderKey "activitycontainer", "container.json", none⟩,
            ⟨Snippet.placeholderKey "activity", "activity.json", some "debug"⟩] } }

/-- The snippet of a container holds a switch, and that of an activity is one. -/
def twoSwitchBench : Bench :=
  { plainBench with
    disk :=
      { plainBench.disk with
        entries :=
          [(["container.json"],
              .file (.text ("\x7b\"workflowDefinitionAction\": \x7b\"X\": \x7b\"actions\": \x7b\"D\": " ++
                "\x7b\"type\": \"Switch\", \"default\": \x7b\"actions\": \x7b\x7d\x7d\x7d\x7d\x7d\x7d\x7d"))),
            (["activity.json"],
              .file (.text "\x7b\"workflowDefinitionAction\": \x7b\"E\": \x7b\"type\": \"Switch\"\x7d\x7d\x7d"))] } }

/-- A branch of the first switch, and behind it the other switch. -/
def twoSwitchWorkflow : Workflow :=
  { (default : Workflow) with
    activities :=
      [.container { (default : Element) with name := "Else", type := "DecisionBranch" } [.leaf default] [] [],
        .leaf default] }

/-- What can be computed of a first assembly. -/
def Bench.Assembled (w : Workshop) (parent : Scope) (b c : Bench) : Prop :=
  w.IsPlain b.disk ∧ b.disk.entryAt? b.disk.workingDirectory = some .directory ∧
    (∀ x ∈ b.disk.entries, b.disk.entryAt? x.1.dropLast = some .directory) ∧
    (b.document.objectAt? parent.location).isSome ∧ b.NoneAstray c ∧ w.Quiet b c

instance (w : Workshop) (parent : Scope) (b c : Bench) : Decidable (Bench.Assembled w parent b c) :=
  inferInstanceAs (Decidable (_ ∧ _))

open Build in
/-- The second time there are two switches, so that the branch is skipped; what it holds is there already. -/
theorem reassembly_changes_nothing_skipping :
    ∃ c last, (assembleWorkflow twoSwitchWorkshop .standard twoSwitchWorkflow plainScope).run twoSwitchBench =
        (.ok true, c) ∧
      twoSwitchBench.NoneAstray c ∧
      (assembleWorkflow twoSwitchWorkshop .standard twoSwitchWorkflow plainScope).run c = (.ok true, last) ∧
      ¬ c.NoneAstray last ∧ last.document = c.document := by
  obtain ⟨_, c, hrun, rfl, ⟨hplain, hsettled, hentries, hobject, hsilent, hquiet⟩, hrerun⟩ :
      ∃ r c, (assembleWorkflow twoSwitchWorkshop .standard twoSwitchWorkflow plainScope).run twoSwitchBench =
          (.ok r, c) ∧
        r = true ∧ Bench.Assembled twoSwitchWorkshop plainScope twoSwitchBench c ∧
        (assembleWorkflow twoSwitchWorkshop .standard twoSwitchWorkflow plainScope).yields c
          (fun r last => r = true ∧ ¬ c.NoneAstray last ∧ twoSwitchWorkshop.Quiet c last) = true :=
    Build.exists_run _ (by decide +kernel)
  obtain ⟨_, last, hrerun, rfl, hskipped, hquiet'⟩ := Build.exists_run _ hrerun
  refine ⟨c, last, hrun, hsilent, hrerun, hskipped, ?_⟩
  exact reassembly_changes_nothing twoSwitchWorkshop twoSwitchWorkflow plainScope twoSwitchBench c c last true
    (.ok true) hplain (.of_entries hsettled hentries) (Path.isProper_ofText _) hobject hrun hsilent hquiet rfl rfl
    hrerun hquiet'

/-- The plain workshop with a snippet whose file is looked for where the text of another is kept for inspection. -/
def lateWorkshop : Workshop :=
  { plainWorkshop with
    generationPath := .ofText "generated"
    templatePaths := [⟨1, []⟩, .ofText "generated"]
    manager :=
      { plainWorkshop.manager with
        snippets :=
          [⟨Snippet.placeholderKey "activitycontainer", "container.json", none⟩,
            ⟨Snippet.placeholderKey "activity", "activity.json", some "debug"⟩,
            ⟨Snippet.key "activity" (some "late"), "debug/4..activity.json", none⟩] } }

/-- An activity whose snippet has no file yet, and a container with an activity in it. -/
def lateWorkflow : Workflow :=
  { (default : Workflow) with
    activities := [.leaf { (default : Element) with type := "late" }, .container default [.leaf default] [] []] }

open Build in
/-- A text that was kept for inspection is found the second time, and what it holds is added. -/
theorem kept_text_comes_in_later :
    ∃ c last, lateWorkshop.IsPlain plainBench.disk ∧
      (assembleWorkflow lateWorkshop .standard lateWorkflow plainScope).run plainBench = (.ok true, c) ∧
      plainBench.NoneAstray c ∧
      (assembleWorkflow lateWorkshop .standard lateWorkflow plainScope).run c = (.ok true, last) ∧
      (c.document.objectAt? ["actions", "X", "actions"]).map Fields.names = some ["X"] ∧
      (last.document.objectAt? ["actions", "X", "actions"]).map Fields.names = some ["X", "Y"] := by
  obtain ⟨_, c, hrun, rfl, hplain, hsilent, hnames, hrerun⟩ :
      ∃ r c, (assembleWorkflow lateWorkshop .standard lateWorkflow plainScope).run plainBench = (.ok r, c) ∧
        r = true ∧ lateWorkshop.IsPlain plainBench.disk ∧ plainBench.NoneAstray c ∧
        (c.document.objectAt? ["actions", "X", "actions"]).map Fields.names = some ["X"] ∧
        (assembleWorkflow lateWorkshop .standard lateWorkflow plainScope).yields c (fun r last =>
          r = true ∧ (last.document.objectAt? ["actions", "X", "actions"]).map Fields.names = some ["X", "Y"]) = true :=
    Build.exists_run _ (by decide +kernel)
  obtain ⟨_, last, hrerun, rfl, hmore⟩ := Build.exists_run _ hrerun
  exact ⟨c, last, hplain, hrun, hsilent, hrerun, hnames, hmore⟩

end WorkflowForge
