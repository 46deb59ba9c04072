import WorkflowForge.Proofs.Assembly.Contributions
import WorkflowForge.Proofs.Assembly.Rendering

/-!
What comes into a collection. It receives what it is offered, each name once and never over an entry that is there, and
its entries go on growing. A step that works elsewhere brings nothing into it.

What is offered is rendered when its turn comes. What a rendering gives depends on the number it takes, on the stamps
and on the disk, and neither on the document nor on what was logged or recorded.
-/

namespace WorkflowForge

theorem Json.Grows.append_right {old new : Fields} (h : Grows (.object old) (.object new))
    (hnames : Fields.names new = Fields.names old) (more : Fields) :
    Grows (.object (old ++ more)) (.object (new ++ more)) := by
  refine .object (by simp [hnames]) fun name v w hv hw => ?_
  by_cases hmem : name ∈ Fields.names old
  · rw [Fields.get?_append_of_mem _ hmem] at hv
    rw [Fields.get?_append_of_mem _ (hnames ▸ hmem)] at hw
    cases h with
    | other hother => cases hother
    | object _ hvalues => exact hvalues name v w hv hw
  · rw [Fields.get?_append_of_not_mem _ hmem] at hv
    rw [Fields.get?_append_of_not_mem _ (hnames ▸ hmem), hv] at hw
    cases hw
    exact .refl v

namespace Fields

theorem free_append (taken : List String) (first second : Fields) :
    free taken (first ++ second) = free taken first ++ free (taken ++ names (free taken first)) second := by
  induction first generalizing taken with
  | nil => simp [free]
  | cons field rest ih =>
      obtain ⟨name, body⟩ := field
      rw [List.cons_append, free, free]
      split
      · exact ih taken
      · rw [ih, names_cons, List.cons_append, List.append_assoc]
        rfl

/-- A collection after it was offered entries. Those with new names stand behind the old ones, in their order and the
first of each name; what the entries hold may have grown. -/
structure Receives (old offers new : Fields) : Prop where
  names_eq : names new = names (old ++ free (names old) offers)
  grows : (Json.object (old ++ free (names old) offers)).Grows (.object new)

namespace Receives

theorem at_once (old offers : Fields) : Receives old offers (old ++ free (names old) offers) := ⟨rfl, .refl _⟩

theorem nothing {old new : Fields} (hnames : names new = names old) (hgrows : (Json.object old).Grows (.object new)) :
    Receives old [] new := by
  constructor <;> rw [free, List.append_nil]
  · exact hnames
  · exact hgrows

theorem append {old middle new first second : Fields} (hfirst : Receives old first middle)
    (hsecond : Receives middle second new) : Receives old (first ++ second) new := by
  have hboth : old ++ free (names old) (first ++ second) =
      (old ++ free (names old) first) ++ free (names middle) second := by
    rw [free_append, hfirst.names_eq, names_append, List.append_assoc]
  constructor
  · rw [hboth, hsecond.names_eq, names_append, names_append, hfirst.names_eq]
  · rw [hboth]
    exact (hfirst.grows.append_right hfirst.names_eq _).trans hsecond.grows

end Receives

end Fields

/-- The collection at a place, if it is there, receives what it is offered. -/
def Json.ReceivesAt (place : List String) (offers : Fields) (old new : Json) : Prop :=
  ∀ entries, old.objectAt? place = some entries →
    ∃ grown, new.objectAt? place = some grown ∧ Fields.Receives entries offers grown

namespace Json.ReceivesAt

variable {place : List String}

/-- A collection receives nothing where its names stay. -/
theorem nothing {old new : Json} (hgrows : old.Grows new) (houtline : new.outlineAt? place = old.outlineAt? place) :
    ReceivesAt place [] old new := by
  intro entries hentries
  obtain ⟨grown, hgrown, hle⟩ := hgrows.objectAt? hentries
  rw [outlineAt?_of_objectAt? hentries, outlineAt?_of_objectAt? hgrown] at houtline
  exact ⟨grown, hgrown, .nothing (Sum.inr.inj (Option.some.inj houtline)) hle⟩

theorem refl (place : List String) (document : Json) : ReceivesAt place [] document document :=
  nothing (.refl document) rfl

theorem append {old middle new : Json} {first second : Fields} (hfirst : ReceivesAt place first old middle)
    (hsecond : ReceivesAt place second middle new) : ReceivesAt place (first ++ second) old new := by
  intro entries hentries
  obtain ⟨grown, hgrown, hreceives⟩ := hfirst entries hentries
  obtain ⟨last, hlast, hrest⟩ := hsecond grown hgrown
  exact ⟨last, hlast, hreceives.append hrest⟩

theorem isSome {old new : Json} {offers : Fields} (h : ReceivesAt place offers old new)
    (hold : (old.objectAt? place).isSome) : (new.objectAt? place).isSome := by
  obtain ⟨entries, hentries⟩ := Option.isSome_iff_exists.mp hold
  obtain ⟨grown, hgrown, _⟩ := h entries hentries
  rw [hgrown]
  rfl

end Json.ReceivesAt

theorem Contributed.receivesAt {s : Scope} {contributions : List Contribution} {old new : Json}
    (h : Contributed s contributions old new) :
    Json.ReceivesAt s.location (contributions.flatMap Contribution.actions) old new := by
  induction h with
  | nil => exact .refl _ _
  | cons _ hentries _ _ ih =>
      rw [List.flatMap_cons]
      refine .append (fun entries hthere => ?_) ih
      rw [hentries] at hthere
      cases hthere
      exact ⟨_, Json.objectAt?_modifyAt_const _ hentries, .at_once _ _⟩

/-- A move within a place leaves the names at every place that is not below that one. -/
theorem Move.outlineAt?_eq {w : Workshop} {within place : List String} {b c : Bench} (h : Move w within b c)
    (hplace : ¬ within <+: place) : c.document.outlineAt? place = b.document.outlineAt? place := by
  cases h with
  | add s hwithin name body =>
      unfold Scope.add
      split
      · rfl
      · exact Json.outlineAt?_modifyAt _ _ fun hbelow => hplace (hwithin.trans hbelow)
  | _ => rfl

/-- Moves within a place bring nothing into a collection that is not below that place. -/
theorem Moves.receivesAt {w : Workshop} {within place : List String} {b c : Bench} (h : Moves w within b c)
    (hplace : ¬ within <+: place) : Json.ReceivesAt place [] b.document c.document := by
  refine .nothing h.grows ?_
  exact Moves.preserves (R := fun b c => c.document.outlineAt? place = b.document.outlineAt? place) (fun _ => rfl)
    (fun hfirst hsecond => hsecond.trans hfirst) (fun hmove => hmove.outlineAt?_eq hplace) h

theorem Build.Does.moves {α : Type} {w : Workshop} {within : List String} {x : Build α} {post : α → Prop}
    (hx : Build.Does w within x post) {b c : Bench} {r : Except Fault α} (hrun : x.run b = (r, c)) :
    Moves w within b c := by
  have hall := (hx b).1
  rwa [hrun] at hall

namespace Build

variable {w : Workshop} {α β : Type}

/-- A build that renders nothing, as far as a later rendering can tell. -/
def RendersNothing (x : Build α) : Prop := ∀ b : Bench, b.RendersLike (x.run b).2

namespace RendersNothing

theorem like {x : Build α} (hx : RendersNothing x) {b c : Bench} {r : Except Fault α} (hrun : x.run b = (r, c)) :
    b.RendersLike c := by
  have h := hx b
  rwa [hrun] at h

theorem done (a : α) : RendersNothing (Pure.pure a : Build α) := fun b => .refl b

theorem get : RendersNothing (MonadState.get : Build Bench) := fun b => .refl b

theorem debug (logger name : String) (fields : Fields) : RendersNothing (Build.debug logger name fields) :=
  fun _ => ⟨rfl, rfl, rfl⟩

theorem warning (logger name : String) (fields : Fields) : RendersNothing (Build.warning logger name fields) :=
  fun _ => ⟨rfl, rfl, rfl⟩

theorem record (kind : IssueKind) (message : String) (path : Option String) :
    RendersNothing (Build.record w kind message path) :=
  fun _ => ⟨rfl, rfl, rfl⟩

theorem add (s : Scope) (name : String) (body : Json) : RendersNothing (Build.add s name body) :=
  fun _ => ⟨rfl, rfl, rfl⟩

theorem bind {x : Build α} {f : α → Build β} (hx : RendersNothing x) (hf : ∀ a, RendersNothing (f a)) :
    RendersNothing (x >>= f) :=
  fun b => run_bind_keeps (R := Bench.RendersLike) .trans (hx b) fun a c _ => hf a c

theorem insertActions (s : Scope) (source : String) (actions : Fields) :
    RendersNothing (Build.insertActions w s source actions) := by
  induction actions with
  | nil => exact done _
  | cons action rest ih =>
      obtain ⟨name, body⟩ := action
      refine bind (add s name body) fun added => ?_
      cases added with
      | true => exact bind (debug _ _ _) fun _ => bind ih fun _ => done _
      | false => exact bind (warning _ _ _) fun _ => bind ih fun _ => done _

theorem resolve (kind : String) (type : Option String) : RendersNothing (Build.resolve w kind type) := by
  unfold Build.resolve
  split
  · exact done _
  · exact bind (record _ _ _) fun _ => done _

theorem locateChildren (payload : Payload) (action : String) (parent : Scope) :
    RendersNothing (Build.locateChildren w payload action parent) := by
  refine bind get fun b => ?_
  split
  · exact done _
  · exact bind (record _ _ _) fun _ => done _

end RendersNothing

/-- A build that comes to the same from benches on which renderings do. -/
def Uniform (x : Build α) : Prop :=
  ∀ b c : Bench, b.RendersLike c → (x.run c).1 = (x.run b).1 ∧ (x.run b).2.RendersLike (x.run c).2

namespace Uniform

theorem done (a : α) : Uniform (Pure.pure a : Build α) := fun _ _ h => ⟨rfl, h⟩

theorem bind {x : Build α} {f : α → Build β} (hx : Uniform x) (hf : ∀ a, Uniform (f a)) : Uniform (x >>= f) := by
  intro b c h
  obtain ⟨hresult, hafter⟩ := hx b c h
  rw [run_bind, run_bind]
  cases hb : x.run b with
  | mk r b' =>
  cases hc : x.run c with
  | mk r' c' =>
      rw [hb, hc] at hresult hafter
      dsimp only at hresult hafter
      subst hresult
      cases r' with
      | error e => exact ⟨rfl, hafter⟩
      | ok a => exact hf a b' c' hafter

/-- A run from another bench on which renderings come to the same. -/
theorem run_eq {x : Build α} (hx : Uniform x) {b c b' : Bench} {r : Except Fault α} (h : b.RendersLike c)
    (hrun : x.run b = (r, b')) : ∃ c', x.run c = (r, c') ∧ b'.RendersLike c' := by
  obtain ⟨hresult, hafter⟩ := hx b c h
  rw [hrun] at hresult hafter
  exact ⟨(x.run c).2, Prod.ext hresult rfl, hafter⟩

theorem debug (logger name : String) (fields : Fields) : Uniform (Build.debug logger name fields) :=
  fun _ _ h => ⟨rfl, h.ids, h.stamps, h.disk⟩

theorem record (kind : IssueKind) (message : String) (path : Option String) :
    Uniform (Build.record w kind message path) :=
  fun _ _ h => ⟨rfl, h.ids, h.stamps, h.disk⟩

theorem resolve (kind : String) (type : Option String) : Uniform (Build.resolve w kind type) := by
  unfold Build.resolve
  split
  · exact done _
  · exact bind (record _ _ _) fun _ => done _

theorem renderJson (item : Option Item) (snippet : Snippet) : Uniform (Build.renderJson w item snippet true) := by
  intro b c h
  have hnumbered : (numbered item b).RendersLike (numbered item c) := by
    refine ⟨by simp [numbered, h.ids], ?_, h.disk⟩
    cases item <;> simp [numbered, h.ids, h.stamps]
  have htext (source : Path) : textOf w item snippet source (numbered item c) =
      textOf w item snippet source (numbered item b) := by
    rw [textOf, textOf, hnumbered.disk, hnumbered.stamps]
  have htarget (source : Path) : nextTarget w item snippet source c = nextTarget w item snippet source b := by
    rw [nextTarget, nextTarget, h.ids]
  rw [renderJson_run, renderJson_run, h.disk]
  cases Snippet.findFile w.templatePaths b.disk snippet.templateFile with
  | none => exact ⟨rfl, hnumbered.ids, hnumbered.stamps, hnumbered.disk⟩
  | some source =>
      dsimp only
      rw [htext, htarget]
      cases textOf w item snippet source (numbered item b) with
      | error f => exact ⟨rfl, hnumbered.ids, hnumbered.stamps, hnumbered.disk⟩
      | ok text =>
          dsimp only
          split
          · exact ⟨rfl, hnumbered.ids, hnumbered.stamps, hnumbered.disk⟩
          · split <;> exact ⟨rfl, hnumbered.ids, hnumbered.stamps, rfl⟩

theorem render (item : Option Item) (snippet : Snippet) : Uniform (Build.render w item snippet) :=
  bind (renderJson item snippet) fun _ => done _

theorem renderContainer (item : Item) : Uniform (Build.renderContainer w item) := by
  refine bind (resolve _ _) fun found => ?_
  cases found with
  | none => exact done _
  | some snippet =>
      refine bind (render _ _) fun payload => ?_
      split
      · exact bind (debug _ _ _) fun _ => done _
      · exact done _

end Uniform

/-- Renders snippets for an element, one after the other, and collects their actions. -/
def rendered (w : Workshop) (item : Item) : List Snippet → Build Fields
  | [] => return []
  | snippet :: rest => do
    let payload ← render w (some item) snippet
    return actionsOf payload ++ (← rendered w item rest)

/-- The actions of snippets that are rendered for an element from a bench on. -/
def renderedActions (w : Workshop) (item : Item) (snippets : List Snippet) (b : Bench) : Fields :=
  ((rendered w item snippets).run b).1.toOption.getD []

theorem Uniform.rendered (item : Item) (snippets : List Snippet) : Uniform (Build.rendered w item snippets) := by
  induction snippets with
  | nil => exact done _
  | cons snippet rest ih => exact bind (render _ _) fun _ => bind ih fun _ => done _

/-- On the way from one bench to another some snippets were rendered, and came to these actions. -/
def Offers (w : Workshop) (item : Item) (snippets : List Snippet) (actions : Fields) (b c : Bench) : Prop :=
  ∃ d, (rendered w item snippets).run b = (.ok actions, d) ∧ d.RendersLike c

namespace Offers

variable {item : Item} {snippets : List Snippet} {actions : Fields} {b c d : Bench}

theorem renderedActions_eq (h : Offers w item snippets actions b c) : renderedActions w item snippets b = actions := by
  obtain ⟨d, hrun, _⟩ := h
  rw [renderedActions, hrun]
  rfl

theorem of_like (h : Offers w item snippets actions b c) (hstart : d.RendersLike b) :
    Offers w item snippets actions d c := by
  obtain ⟨e, hrun, hafter⟩ := h
  obtain ⟨f, hrun', hf⟩ := (Uniform.rendered item snippets).run_eq hstart.symm hrun
  exact ⟨f, hrun', hf.symm.trans hafter⟩

theorem nothing (h : b.RendersLike c) : Offers w item [] [] b c := ⟨b, rfl, h⟩

theorem cons {snippet : Snippet} {payload : Option Payload}
    (hrender : (render w (some item) snippet).run b = (.ok payload, d)) (h : Offers w item snippets actions d c) :
    Offers w item (snippet :: snippets) (actionsOf payload ++ actions) b c := by
  obtain ⟨e, hrun, hafter⟩ := h
  refine ⟨e, ?_, hafter⟩
  rw [rendered, run_bind, hrender]
  dsimp only
  rw [run_bind, hrun]
  rfl

theorem single {snippet : Snippet} {payload : Option Payload}
    (hrender : (render w (some item) snippet).run b = (.ok payload, d)) (hafter : d.RendersLike c) :
    Offers w item [snippet] (actionsOf payload) b c := by
  have h := cons hrender (nothing hafter)
  rwa [List.append_nil] at h

end Offers

end Build

end WorkflowForge
