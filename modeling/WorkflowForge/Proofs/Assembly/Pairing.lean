import WorkflowForge.Proofs.Assembly.Composition

/-!
Two builds side by side. They do the same steps in the same order, and which one comes next depends only on what both
gave so far. They may differ in what they tell the log, and in the elements for which they render the same snippet, as
long as those correspond. What holds of each pair of steps and passes on from one pair to the next holds of the two
builds; and each of them is put together from steps.
-/

namespace WorkflowForge

/-- Which renderings, and which further steps, of one build correspond to those of another. Elements that correspond are
told apart neither by their names nor by their types. -/
structure Pairing where
  renders : Option Item → Option Item → Prop
  further : (α : Type) → Build α → Build α → Prop
  name_eq : ∀ {i j : Item}, renders (some i) (some j) → j.name = i.name
  type_eq : ∀ {i j : Item}, renders (some i) (some j) → j.type = i.type

/-- What a build has in common with itself. -/
def Terms.diagonal (t : Terms) : Pairing where
  renders item item' := item' = item ∧ t.renders item
  further α x x' := x' = x ∧ t.further α x
  name_eq h := by rw [Option.some.inj h.1]
  type_eq h := by rw [Option.some.inj h.1]

namespace Build

/-- Two builds that do corresponding steps, and a property of what they give. They record no failed renderings. -/
inductive Paired (w w' : Workshop) (p : Pairing) (within : List String) :
    {α : Type} → Build α → Build α → (α → Prop) → Prop
  | pure {α : Type} {a : α} {post : α → Prop} (h : post a) : Paired w w' p within (Pure.pure a) (Pure.pure a) post
  | bind {α β : Type} {x x' : Build α} {f f' : α → Build β} {mid : α → Prop} {post : β → Prop}
      (hx : Paired w w' p within x x' mid) (hf : ∀ a, mid a → Paired w w' p within (f a) (f' a) post) :
      Paired w w' p within (x >>= f) (x' >>= f') post
  | document : Paired w w' p within document document fun _ => True
  | log (level : Level) (logger name : String) (fields fields' : Fields) (hname : name ∉ Event.tellingOfFiles) :
      Paired w w' p within (log level logger name fields) (log level logger name fields') fun _ => True
  | record (kind : IssueKind) (message : String) (path : Option String) (hkind : kind ≠ .renderFailed) :
      Paired w w' p within (record w kind message path) (record w' kind message path) fun _ => True
  | add (s : Scope) (hwithin : within <+: s.location) (name : String) (body : Json) :
      Paired w w' p within (add s name body) (add s name body) fun _ => True
  | renderJson (item item' : Option Item) (snippet : Snippet) (hsnippet : snippet ∈ w.manager.snippets)
      (hitem : p.renders item item') :
      Paired w w' p within (renderJson w item snippet true) (renderJson w' item' snippet true) fun _ => True
  | further {α : Type} {x x' : Build α} (h : p.further α x x') : Paired w w' p within x x' fun _ => True

/-- Two builds of which only the steps matter. -/
abbrev ArePaired {α : Type} (w w' : Workshop) (p : Pairing) (within : List String) (x x' : Build α) : Prop :=
  Paired w w' p within x x' fun _ => True

variable {w w' : Workshop} {p : Pairing} {within : List String} {α β : Type}

namespace Paired

theorem done {a : α} : ArePaired w w' p within (Pure.pure a : Build α) (Pure.pure a) := pure trivial

/-- The rule for one step after another where the first one's result does not matter. -/
theorem andThen {x x' : Build α} {f f' : α → Build β} {mid : α → Prop} {post : β → Prop}
    (hx : Paired w w' p within x x' mid) (hf : ∀ a, Paired w w' p within (f a) (f' a) post) :
    Paired w w' p within (x >>= f) (x' >>= f') post :=
  bind hx fun a _ => hf a

/-- The rule for steps that depend on the bench by its document. -/
theorem read {f f' : Bench → Build α} {post : α → Prop} (hdocument : ∀ b c, b.document = c.document → f b = f c)
    (hdocument' : ∀ b c, b.document = c.document → f' b = f' c) (hf : ∀ b, Paired w w' p within (f b) (f' b) post) :
    Paired w w' p within (MonadState.get >>= f) (MonadState.get >>= f') post := by
  rw [get_bind_eq hdocument, get_bind_eq hdocument']
  exact andThen document fun _ => hf _

theorem debug (logger name : String) (fields fields' : Fields) (hname : name ∉ Event.tellingOfFiles) :
    ArePaired w w' p within (Build.debug logger name fields) (Build.debug logger name fields') :=
  log .debug logger name fields fields' hname

theorem warning (logger name : String) (fields fields' : Fields) (hname : name ∉ Event.tellingOfFiles) :
    ArePaired w w' p within (Build.warning logger name fields) (Build.warning logger name fields') :=
  log .warning logger name fields fields' hname

theorem render (item item' : Option Item) (snippet : Snippet) (hsnippet : snippet ∈ w.manager.snippets)
    (hitem : p.renders item item') :
    ArePaired w w' p within (Build.render w item snippet) (Build.render w' item' snippet) :=
  andThen (renderJson item item' snippet hsnippet hitem) fun _ => done

theorem widen {narrow : List String} {x x' : Build α} {post : α → Prop} (h : within <+: narrow)
    (hx : Paired w w' p narrow x x' post) : Paired w w' p within x x' post := by
  induction hx with
  | pure hpost => exact pure hpost
  | bind _ _ ihx ihf => exact bind ihx ihf
  | document => exact document
  | log level logger name fields fields' hname => exact log level logger name fields fields' hname
  | record kind message path hkind => exact record kind message path hkind
  | add s hwithin name body => exact add s (h.trans hwithin) name body
  | renderJson item item' snippet hsnippet hitem => exact renderJson item item' snippet hsnippet hitem
  | further hstep => exact further hstep

/-- The first of two builds side by side is put together from steps. -/
theorem composed {t : Terms} (hrenders : ∀ item item', p.renders item item' → t.renders item)
    (hfurther : ∀ (β : Type) (y y' : Build β), p.further β y y' → t.further β y) {x x' : Build α} {post : α → Prop}
    (hx : Paired w w' p within x x' post) : Composed w t within x post := by
  induction hx with
  | pure hpost => exact .pure hpost
  | bind _ _ ihx ihf => exact .bind ihx ihf
  | document => exact .document
  | log level logger name fields _ hname => exact .log level logger name fields hname
  | record kind message path _ => exact .record kind message path
  | add s hwithin name body => exact .add s hwithin name body
  | renderJson item item' snippet hsnippet hitem => exact .renderJson item snippet hsnippet (hrenders item item' hitem)
  | further h => exact .further (hfurther _ _ _ h)

/-- The same for the other one, if both process managers have the same snippets. -/
theorem composed_right {t : Terms} (hsnippets : w'.manager.snippets = w.manager.snippets)
    (hrenders : ∀ item item', p.renders item item' → t.renders item')
    (hfurther : ∀ (β : Type) (y y' : Build β), p.further β y y' → t.further β y') {x x' : Build α} {post : α → Prop}
    (hx : Paired w w' p within x x' post) : Composed w' t within x' post := by
  induction hx with
  | pure hpost => exact .pure hpost
  | bind _ _ ihx ihf => exact .bind ihx ihf
  | document => exact .document
  | log level logger name _ fields' hname => exact .log level logger name fields' hname
  | record kind message path _ => exact .record kind message path
  | add s hwithin name body => exact .add s hwithin name body
  | renderJson item item' snippet hsnippet hitem =>
      exact .renderJson item' snippet (hsnippets ▸ hsnippet) (hrenders item item' hitem)
  | further h => exact .further (hfurther _ _ _ h)

/-- What the builds give where the first ends well has the property that goes with them. -/
theorem post {x x' : Build α} {post : α → Prop} (hx : Paired w w' p within x x' post) {b c : Bench} {a : α}
    (hrun : x.run b = (.ok a, c)) : post a :=
  (hx.composed (t := ⟨fun _ => True, fun _ _ => True⟩) (fun _ _ _ => trivial) fun _ _ _ _ => trivial).post hrun

/-- A build beside itself is one that is put together from steps. -/
theorem alone {t : Terms} {x : Build α} {post : α → Prop} (hx : Paired w w t.diagonal within x x post) :
    Composed w t within x post :=
  composed (p := t.diagonal) (fun _ _ h => h.2) (fun _ _ _ h => h.2) hx

end Paired

end Build

end WorkflowForge
