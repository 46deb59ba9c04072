import Mathlib.Logic.Relation
import WorkflowForge.Assembly.Handler
import WorkflowForge.Proofs.Json.Places

/-!
What a build can do to its bench. Every step of a build, whether it ends well or fails, is a chain of moves of five
kinds: an event is logged, an issue is recorded, a rendering is numbered, a rendered text is kept on the disk, or a
field is added to an object of the document. The moves of a step that is given a scope add only at the scope's place
or below it. What all moves keep is therefore kept by every declaration and by every assembly.
-/

namespace WorkflowForge

/-- A place is not below what is below it. -/
theorem not_append_prefix_self {α : Type} {l more : List α} (h : more ≠ []) : ¬ l ++ more <+: l := by
  intro hprefix
  have hle := hprefix.length_le
  rw [List.length_append] at hle
  have hpos := List.length_pos_iff.mpr h
  omega

/-- One thing that a step of a build does to the bench; fields are added only at or below a place. -/
inductive Move (w : Workshop) (within : List String) : Bench → Bench → Prop
  | log (b : Bench) (level : Level) (logger name : String) (fields : Fields) :
      Move w within b { b with journal := b.journal.emit level logger name fields }
  | record (b : Bench) (kind : IssueKind) (message : String) (path : Option String) :
      Move w within b
        { b with
          issues := b.issues ++ [⟨kind, w.manager.name, message, path⟩]
          journal := Issue.log ⟨kind, w.manager.name, message, path⟩ b.journal }
  | stamp (b : Bench) (item : Option Item) :
      Move w within b ((Build.nextId item).run b).2
  | keep (b : Bench) (snippet : Snippet) (item : Option Item) (source : Path) (text : String) (id : Int) :
      Move w within b
        { b with disk := (b.disk.writeText (Build.inspectionPath w snippet item source id true) text).2 }
  | copy (b : Bench) (snippet : Snippet) (item : Option Item) (source : Path) (id : Int) :
      Move w within b
        { b with disk := (b.disk.copyFile source (Build.inspectionPath w snippet item source id false)).2 }
  | add (b : Bench) (s : Scope) (hwithin : within <+: s.location) (name : String) (body : Json) :
      Move w within b { b with document := (s.add b.document name body).2 }

/-- A chain of moves. -/
abbrev Moves (w : Workshop) (within : List String) : Bench → Bench → Prop := Relation.ReflTransGen (Move w within)

/-- What each move keeps, a chain of moves keeps. -/
theorem Moves.preserves {w : Workshop} {within : List String} {R : Bench → Bench → Prop} (hrefl : ∀ b, R b b)
    (htrans : ∀ {a b c}, R a b → R b c → R a c) (hmove : ∀ {b c}, Move w within b c → R b c) {b c : Bench}
    (hmoves : Moves w within b c) : R b c := by
  induction hmoves with
  | refl => exact hrefl b
  | tail _ hlast ih => exact htrans ih (hmove hlast)

/-- A move within a place where there is nothing leaves the document. -/
theorem Move.document_eq {w : Workshop} {within : List String} {b c : Bench} (h : Move w within b c)
    (habsent : b.document.at? within = none) : c.document = b.document := by
  cases h with
  | add s hwithin name body =>
      obtain ⟨more, hmore⟩ := hwithin
      have hnone : b.document.at? s.location = none := by
        rw [← hmore, Json.at?_append, habsent]
        rfl
      unfold Scope.add
      split
      · rfl
      · exact Json.modifyAt_of_absent _ hnone
  | _ => rfl

namespace Build

theorem run_bind {α β : Type} (x : Build α) (f : α → Build β) (b : Bench) :
    (x >>= f).run b = match x.run b with
      | (.ok a, c) => (f a).run c
      | (.error e, c) => (.error e, c) := by
  change (match x.run b with | (r, c) => (ExceptT.bindCont f r : StateM Bench (Except Fault β)) c) = _
  cases x.run b with
  | mk r c => cases r <;> rfl

theorem run_get_bind {α : Type} (f : Bench → Build α) (b : Bench) :
    ((MonadState.get : Build Bench) >>= f).run b = (f b).run b := rfl

/-- A run of two steps that ends well is a run of the first and then one of the second. -/
theorem run_bind_ok {α β : Type} {x : Build α} {f : α → Build β} {b c : Bench} {r : β}
    (h : (x >>= f).run b = (.ok r, c)) : ∃ a d, x.run b = (.ok a, d) ∧ (f a).run d = (.ok r, c) := by
  rw [run_bind] at h
  cases hrun : x.run b with
  | mk result d =>
      rw [hrun] at h
      cases result with
      | ok a => exact ⟨a, d, rfl, h⟩
      | error e => cases h

/-- A relation that each of two steps keeps, whether it ends well or fails, is kept by one after the other. -/
theorem run_bind_keeps {α β : Type} {R : Bench → Bench → Prop} (htrans : ∀ {a b c}, R a b → R b c → R a c)
    {x : Build α} {f : α → Build β} {b : Bench} (hx : R b (x.run b).2)
    (hf : ∀ a c, x.run b = (.ok a, c) → R c ((f a).run c).2) : R b ((x >>= f).run b).2 := by
  rw [run_bind]
  cases hrun : x.run b with
  | mk r c =>
      rw [hrun] at hx
      cases r with
      | ok a => exact htrans hx (hf a c hrun)
      | error e => exact hx

/-- What a step gives has no effect on the bench it leaves. -/
theorem run_return {α β : Type} (x : Build α) (f : α → β) (b : Bench) :
    ((x >>= fun a => pure (f a)).run b).2 = (x.run b).2 := by
  rw [run_bind]
  cases x.run b with
  | mk r c => cases r <;> rfl

/-- Every run of a step is a chain of moves, and what the step gives where it ends well has a property. -/
def Does {α : Type} (w : Workshop) (within : List String) (x : Build α) (post : α → Prop) : Prop :=
  ∀ b, Moves w within b (x.run b).2 ∧ ∀ a, (x.run b).1 = .ok a → post a

variable {w : Workshop} {within : List String} {α β : Type}

namespace Does

theorem pure {a : α} {post : α → Prop} (h : post a) : Does w within (Pure.pure a : Build α) post := by
  intro b
  refine ⟨.refl, fun a' ha => ?_⟩
  cases ha
  exact h

theorem done {a : α} : Does w within (Pure.pure a : Build α) fun _ => True := pure trivial

theorem throw (f : Fault) {post : α → Prop} : Does w within (MonadExcept.throw f : Build α) post :=
  fun _ => ⟨.refl, fun _ ha => by cases ha⟩

theorem get : Does w within (MonadState.get : Build Bench) fun _ => True :=
  fun _ => ⟨.refl, fun _ _ => trivial⟩

theorem bind {x : Build α} {f : α → Build β} {mid : α → Prop} {post : β → Prop} (hx : Does w within x mid)
    (hf : ∀ a, mid a → Does w within (f a) post) : Does w within (x >>= f) post := by
  intro b
  rw [run_bind]
  obtain ⟨hmoves, hmid⟩ := hx b
  cases hrun : x.run b with
  | mk r c =>
      rw [hrun] at hmoves hmid
      cases r with
      | ok a =>
          obtain ⟨hrest, hpost⟩ := hf a (hmid a rfl) c
          exact ⟨hmoves.trans hrest, hpost⟩
      | error e => exact ⟨hmoves, fun _ ha => by cases ha⟩

/-- The rule for one step after another where the first one's result does not matter. -/
theorem andThen {x : Build α} {f : α → Build β} {mid : α → Prop} {post : β → Prop} (hx : Does w within x mid)
    (hf : ∀ a, Does w within (f a) post) : Does w within (x >>= f) post :=
  bind hx fun a _ => hf a

end Does

/-- A step that works within every place leaves the document alone: for some place there is nothing in it. -/
theorem Does.document_eq {x : Build α} {post : α → Prop} (hx : ∀ within, Does w within x post) {b c : Bench}
    {r : Except Fault α} (hrun : x.run b = (r, c)) : c.document = b.document := by
  obtain ⟨place, hplace⟩ := b.document.exists_absent
  have hmoves : Moves w place b c := by
    have hrun_moves := (hx place b).1
    rwa [hrun] at hrun_moves
  refine Moves.preserves (R := fun b c => b.document.at? place = none → c.document = b.document) (fun _ _ => rfl)
    (fun h₁ h₂ hnone => ?_) Move.document_eq hmoves hplace
  have hsame := h₁ hnone
  rw [h₂ (by rw [hsame]; exact hnone), hsame]

/-- A step of which only the moves matter. -/
abbrev Acts (w : Workshop) (within : List String) (x : Build α) : Prop := Does w within x fun _ => True

theorem log_acts (level : Level) (logger name : String) (fields : Fields) :
    Acts w within (log level logger name fields) :=
  fun b => ⟨.single (.log b level logger name fields), fun _ _ => trivial⟩

theorem debug_acts (logger name : String) (fields : Fields) : Acts w within (debug logger name fields) :=
  log_acts .debug logger name fields

theorem debug_document_eq {logger name : String} {fields : Fields} {b c : Bench} {r : Except Fault Unit}
    (hrun : (debug logger name fields).run b = (r, c)) : c.document = b.document := by
  cases hrun
  rfl

theorem warning_acts (logger name : String) (fields : Fields) : Acts w within (warning logger name fields) :=
  log_acts .warning logger name fields

theorem record_acts (kind : IssueKind) (message : String) (path : Option String) :
    Acts w within (record w kind message path) :=
  fun b => ⟨.single (.record b kind message path), fun _ _ => trivial⟩

theorem add_acts (s : Scope) (hwithin : within <+: s.location) (name : String) (body : Json) :
    Acts w within (add s name body) :=
  fun b => ⟨.single (.add b s hwithin name body), fun _ _ => trivial⟩

theorem nextId_acts (item : Option Item) : Acts w within (nextId item) :=
  fun b => ⟨.single (.stamp b item), fun _ _ => trivial⟩

theorem onDisk_run (step : Disk → Except DiskError Unit × Disk) (b : Bench) :
    (onDisk step).run b = match step b.disk with
      | (.ok (), disk) => (.ok (), { b with disk := disk })
      | (.error e, disk) => (.error (.disk e), { b with disk := disk }) := by
  rw [onDisk, run_get_bind]
  cases step b.disk with
  | mk result disk => cases result <;> rfl

theorem onDisk_acts {step : Disk → Except DiskError Unit × Disk}
    (hstep : ∀ b, Move w within b { b with disk := (step b.disk).2 }) : Acts w within (onDisk step) := by
  intro b
  have hmove := hstep b
  rw [onDisk_run]
  cases hrun : step b.disk with
  | mk result disk =>
      rw [hrun] at hmove
      cases result with
      | ok => exact ⟨.single hmove, fun _ _ => trivial⟩
      | error e => exact ⟨.single hmove, fun _ _ => trivial⟩

theorem keepForInspection_acts (snippet : Snippet) (item : Option Item) (source : Path) (text : String) (id : Int)
    (templated : Bool) : Acts w within (keepForInspection w snippet item source text id templated) := by
  unfold keepForInspection
  cases templated with
  | true =>
      refine .andThen (onDisk_acts fun b => .keep b snippet item source text id) fun _ => ?_
      exact debug_acts _ _ _
  | false =>
      refine .andThen (onDisk_acts fun b => .copy b snippet item source id) fun _ => ?_
      exact debug_acts _ _ _

theorem reportMissing_acts (snippet : Snippet) (asIssue : Bool) :
    Acts w within (reportMissing w snippet asIssue) := by
  unfold reportMissing
  split
  · exact record_acts _ _ _
  · exact warning_acts _ _ _

theorem snippetText_acts (item : Option Item) (snippet : Snippet) (source : Path) :
    Acts w within (snippetText w item snippet source) := by
  refine .andThen .get fun b => ?_
  split
  · exact .throw _
  · split
    · split
      · exact .done
      · exact .throw _
    · exact .done

theorem renderJson_acts (item : Option Item) (snippet : Snippet) (asIssue : Bool) :
    Acts w within (renderJson w item snippet asIssue) := by
  refine .andThen (nextId_acts item) fun id => .andThen .get fun b => ?_
  split
  · exact .andThen (reportMissing_acts snippet asIssue) fun _ => .done
  · next source _ =>
      refine .andThen (log_acts .debug _ _ _) fun _ => .andThen (snippetText_acts item snippet source) fun text => ?_
      dsimp only
      split
      · refine .andThen (keepForInspection_acts _ _ _ _ _ _) fun _ => ?_
        split
        · exact .done
        · exact .throw _
      · split
        · exact .done
        · exact .throw _

theorem render_acts (item : Option Item) (snippet : Snippet) : Acts w within (render w item snippet) :=
  .andThen (renderJson_acts item snippet true) fun _ => .done

theorem resolve_acts (kind : String) (type : Option String) : Acts w within (resolve w kind type) := by
  unfold resolve
  split
  · exact .done
  · exact .andThen (record_acts _ _ _) fun _ => .done

end Build

end WorkflowForge
