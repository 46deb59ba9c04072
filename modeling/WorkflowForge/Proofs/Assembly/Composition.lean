import WorkflowForge.Proofs.Assembly.Moves

/-!
How a build is put together. Whatever a build does is done by steps of a few kinds, one after the other: it looks at the
document, logs an event, records an issue, adds a field, renders a snippet of its process manager, or does one of the
further things that it is allowed. Which step comes next may depend on what the earlier ones gave, but on nothing else.
So what holds of the steps and passes from two builds to one after the other holds of every build.
-/

namespace WorkflowForge

/-- The events that tell of a file that was written. -/
def Event.tellingOfFiles : List String := ["artifact_written", "snippet_debug_output_written"]

/-- What a build may do besides the usual: what it renders snippets for, where there is something, and further steps. -/
structure Terms where
  renders : Option Item → Prop
  further : (α : Type) → Build α → Prop

/-- Renderings for anything, and nothing further. -/
def Terms.plain : Terms := ⟨fun _ => True, fun _ _ => False⟩

namespace Build

/-- Looks at the document. -/
def document : Build Json := do return (← get).document

/-- Does a step and records it as an issue if it fails at a snippet. -/
def recovering (w : Workshop) (x : Build (Option Path)) : Build (Option Path) :=
  tryCatch x fun
    | .render e => do
      record w .renderFailed e.message (some e.templateFile)
      return none
    | f => throw f

/-- A build that is put together from steps, and a property of what it gives. Fields are added at or below a place. -/
inductive Composed (w : Workshop) (t : Terms) (within : List String) : {α : Type} → Build α → (α → Prop) → Prop
  | pure {α : Type} {a : α} {post : α → Prop} (h : post a) : Composed w t within (Pure.pure a) post
  | bind {α β : Type} {x : Build α} {f : α → Build β} {mid : α → Prop} {post : β → Prop}
      (hx : Composed w t within x mid) (hf : ∀ a, mid a → Composed w t within (f a) post) :
      Composed w t within (x >>= f) post
  | document : Composed w t within document fun _ => True
  | log (level : Level) (logger name : String) (fields : Fields) (hname : name ∉ Event.tellingOfFiles) :
      Composed w t within (log level logger name fields) fun _ => True
  | record (kind : IssueKind) (message : String) (path : Option String) :
      Composed w t within (record w kind message path) fun _ => True
  | add (s : Scope) (hwithin : within <+: s.location) (name : String) (body : Json) :
      Composed w t within (add s name body) fun _ => True
  | renderJson (item : Option Item) (snippet : Snippet) (hsnippet : snippet ∈ w.manager.snippets)
      (hitem : t.renders item) :
      Composed w t within (renderJson w item snippet true) fun _ => True
  | recovering {x : Build (Option Path)} {post : Option Path → Prop} (hx : Composed w t within x post) :
      Composed w t within (recovering w x) fun _ => True
  | further {α : Type} {x : Build α} (h : t.further α x) : Composed w t within x fun _ => True

/-- A build of which only the steps matter. -/
abbrev IsComposed {α : Type} (w : Workshop) (t : Terms) (within : List String) (x : Build α) : Prop :=
  Composed w t within x fun _ => True

variable {w : Workshop} {t : Terms} {within : List String} {α β : Type}

theorem run_tryCatch (x : Build α) (handle : Fault → Build α) (b : Bench) :
    (tryCatch x handle).run b = match x.run b with
      | (.ok a, c) => (.ok a, c)
      | (.error f, c) => (handle f).run c := by
  rw [ExceptT.run_tryCatch]
  change StateT.bind x.run _ b = _
  unfold StateT.bind
  cases x.run b with
  | mk r c => cases r <;> rfl

/-- A failure at a snippet is recorded, and any other passed on. -/
theorem recovering_run (x : Build (Option Path)) (b : Bench) :
    (recovering w x).run b = match x.run b with
      | (.error (.render e), c) => (.ok none, ((record w .renderFailed e.message (some e.templateFile)).run c).2)
      | result => result := by
  rw [recovering, run_tryCatch]
  cases x.run b with
  | mk r c =>
      cases r with
      | ok a => rfl
      | error f => cases f <;> rfl

/-- To depend on the bench by its document is to look at the document. -/
theorem get_bind_eq {f : Bench → Build α} (hdocument : ∀ b c, b.document = c.document → f b = f c) :
    (MonadState.get >>= f : Build α) =
      document >>= fun document => f { (default : Bench) with document := document } := by
  refine funext fun b => ?_
  change (f b).run b = (f { (default : Bench) with document := b.document }).run b
  rw [hdocument b { (default : Bench) with document := b.document } rfl]

namespace Composed

theorem done {a : α} : IsComposed w t within (Pure.pure a : Build α) := pure trivial

/-- The rule for one step after another where the first one's result does not matter. -/
theorem andThen {x : Build α} {f : α → Build β} {mid : α → Prop} {post : β → Prop} (hx : Composed w t within x mid)
    (hf : ∀ a, Composed w t within (f a) post) : Composed w t within (x >>= f) post :=
  bind hx fun a _ => hf a

/-- What a build gives may be left aside. -/
theorem forget {x : Build α} {post : α → Prop} (hx : Composed w t within x post) : IsComposed w t within x := by
  have hbind : IsComposed w t within (x >>= Pure.pure) := andThen hx fun _ => done
  rwa [bind_pure] at hbind

theorem debug (logger name : String) (fields : Fields) (hname : name ∉ Event.tellingOfFiles) :
    IsComposed w t within (Build.debug logger name fields) :=
  log .debug logger name fields hname

theorem warning (logger name : String) (fields : Fields) (hname : name ∉ Event.tellingOfFiles) :
    IsComposed w t within (Build.warning logger name fields) :=
  log .warning logger name fields hname

/-- The rule for looser terms and a wider place. -/
theorem loosen {narrow : List String} {u : Terms} (hwithin : within <+: narrow)
    (hrenders : ∀ item, t.renders item → u.renders item)
    (hfurther : ∀ (β : Type) (y : Build β), t.further β y → u.further β y) {x : Build α} {post : α → Prop}
    (hx : Composed w t narrow x post) : Composed w u within x post := by
  induction hx with
  | pure hpost => exact pure hpost
  | bind _ _ ihx ihf => exact bind ihx ihf
  | document => exact document
  | log level logger name fields hname => exact log level logger name fields hname
  | record kind message path => exact record kind message path
  | add s hnarrow name body => exact add s (hwithin.trans hnarrow) name body
  | renderJson item snippet hsnippet hitem => exact renderJson item snippet hsnippet (hrenders item hitem)
  | recovering _ ih => exact recovering ih
  | further hstep => exact further (hfurther _ _ hstep)

theorem widen {narrow : List String} {x : Build α} {post : α → Prop} (h : within <+: narrow)
    (hx : Composed w t narrow x post) : Composed w t within x post :=
  hx.loosen h (fun _ => id) fun _ _ => id

/-- What a build gives where it ends well has the property that goes with it. -/
theorem post {x : Build α} {post : α → Prop} (hx : Composed w t within x post) {b c : Bench} {a : α}
    (hrun : x.run b = (.ok a, c)) : post a := by
  induction hx generalizing b c with
  | pure h =>
      cases hrun
      exact h
  | bind _ _ ihx ihf =>
      obtain ⟨a, d, hfirst, hrest⟩ := run_bind_ok hrun
      exact ihf a (ihx hfirst) hrest
  | _ => trivial

/-- A build without further steps works by moves. -/
theorem does {x : Build α} {post : α → Prop} (hx : Composed w .plain within x post) : Does w within x post := by
  induction hx with
  | pure h => exact .pure h
  | bind _ _ ihx ihf => exact .bind ihx ihf
  | document => exact .andThen .get fun _ => .done
  | log level logger name fields _ => exact log_acts level logger name fields
  | record kind message path => exact record_acts kind message path
  | add s hwithin name body => exact add_acts s hwithin name body
  | renderJson item snippet _ _ => exact renderJson_acts item snippet true
  | @recovering x _ _ ih =>
      intro b
      refine ⟨?_, fun _ _ => trivial⟩
      have hmoves := (ih b).1
      rw [recovering_run]
      cases hrun : x.run b with
      | mk r c =>
          rw [hrun] at hmoves
          cases r with
          | ok a => exact hmoves
          | error f =>
              cases f with
              | render e => exact hmoves.trans (record_acts _ _ _ c).1
              | template e => exact hmoves
              | disk e => exact hmoves
  | further h => exact absurd h id

/-- A relation between benches that every step keeps, whether it ends well or fails, is kept by every build. -/
theorem preserves {R : Bench → Bench → Prop} (hrefl : ∀ b, R b b) (htrans : ∀ {a b c}, R a b → R b c → R a c)
    (hlog : ∀ b level logger name fields, name ∉ Event.tellingOfFiles →
      R b ((Build.log level logger name fields).run b).2)
    (hrecord : ∀ b kind message path, R b ((Build.record w kind message path).run b).2)
    (hadd : ∀ b s name body, R b ((Build.add s name body).run b).2)
    (hrender : ∀ b item snippet, snippet ∈ w.manager.snippets → t.renders item →
      R b ((Build.renderJson w item snippet true).run b).2)
    (hfurther : ∀ (β : Type) (y : Build β) b, t.further β y → R b (y.run b).2)
    {x : Build α} {post : α → Prop} (hx : Composed w t within x post) (b : Bench) : R b (x.run b).2 := by
  induction hx generalizing b with
  | pure _ => exact hrefl b
  | bind hx _ ihx ihf => exact run_bind_keeps (R := R) htrans (ihx b) fun a c hrun => ihf a (hx.post hrun) c
  | document => exact hrefl b
  | log level logger name fields hname => exact hlog b level logger name fields hname
  | record kind message path => exact hrecord b kind message path
  | add s _ name body => exact hadd b s name body
  | renderJson item snippet hsnippet hitem => exact hrender b item snippet hsnippet hitem
  | @recovering x _ _ ih =>
      have hfirst := ih b
      rw [recovering_run]
      cases hrun : x.run b with
      | mk r c =>
          rw [hrun] at hfirst
          cases r with
          | ok a => exact hfirst
          | error f =>
              cases f with
              | render e => exact htrans hfirst (hrecord c _ _ _)
              | template e => exact hfirst
              | disk e => exact hfirst
  | further h => exact hfurther _ _ b h

end Composed

end Build

end WorkflowForge
