import WorkflowForge.Proofs.Assembly.Composition
import WorkflowForge.Proofs.Assembly.Rendering

/-!
The course of a build: the stages that it passes through, one after each of its steps, with the renderings that begin
on the way. A rendering has two stages, one when it took its number and one when it is over. Every build that is put
together from steps has a course, and the course ends where the run of the build ends. What each step does, from one
stage to the next, adds up to what is so at every point of a course.
-/

namespace WorkflowForge

/-- A rendering: what is rendered, from which snippet, and the bench as it was before. -/
structure Rendering where
  item : Option Item
  snippet : Snippet
  before : Bench

/-- Where a rendering kept its text for inspection, if it did. -/
def Rendering.kept? (w : Workshop) (r : Rendering) : Option Path :=
  match Snippet.findFile w.templatePaths r.before.disk r.snippet.templateFile with
  | none => none
  | some source =>
    match Build.textOf w r.item r.snippet source (Build.numbered r.item r.before) with
    | .error _ => none
    | .ok text =>
      if r.snippet.outputPath.getD "" = "" then none
      else
        match Build.keep (Snippet.isTemplate w.suffixes source) source
            (Build.nextTarget w r.item r.snippet source r.before) text r.before.disk with
        | (.ok (), _) => some (Build.nextTarget w r.item r.snippet source r.before)
        | (.error _, _) => none

/-- A text is kept where the output path of its snippet says, under the name of the file that was found. -/
theorem Rendering.kept?_eq_some {w : Workshop} {r : Rendering} {p : Path} (h : r.kept? w = some p) :
    r.snippet.outputPath.getD "" ≠ "" ∧ ∃ source,
      Snippet.findFile w.templatePaths r.before.disk r.snippet.templateFile = some source ∧
      p = Build.nextTarget w r.item r.snippet source r.before := by
  unfold kept? at h
  split at h
  · cases h
  · next source hsource =>
      split at h
      · cases h
      · split at h
        · cases h
        · next houtput =>
            split at h
            · exact ⟨houtput, source, hsource, (Option.some.inj h).symm⟩
            · cases h

/-- A stage of a build: the rendering that has just begun, where one has, and the bench as it is then. -/
structure Stage where
  begun : Option Rendering
  bench : Bench

namespace Stage

/-- The renderings that began. -/
def renderings (stages : List Stage) : List Rendering := stages.filterMap (·.begun)

/-- The bench after some stages. -/
def reached (b : Bench) (stages : List Stage) : Bench := stages.foldl (fun _ m => m.bench) b

theorem renderings_append (stages more : List Stage) :
    renderings (stages ++ more) = renderings stages ++ renderings more :=
  List.filterMap_append

theorem reached_append (b : Bench) (stages more : List Stage) :
    reached b (stages ++ more) = reached (reached b stages) more :=
  List.foldl_append

end Stage

open Stage (renderings reached renderings_append reached_append)

namespace Build

/-- A step of a build that is no rendering. -/
inductive Plain (w : Workshop) (t : Terms) : {α : Type} → Build α → Prop
  | document : Plain w t document
  | log (level : Level) (logger name : String) (fields : Fields) (hname : name ∉ Event.tellingOfFiles) :
      Plain w t (log level logger name fields)
  | record (kind : IssueKind) (message : String) (path : Option String) : Plain w t (record w kind message path)
  | add (s : Scope) (name : String) (body : Json) : Plain w t (add s name body)
  | further {α : Type} {x : Build α} (h : t.further α x) : Plain w t x

/-- A step that is no rendering, and nothing further, leaves the disk, the counter and the stamps. -/
theorem Plain.rendersLike {w : Workshop} {t : Terms} {α : Type} {x : Build α} (h : Plain w t x) (b : Bench) :
    b.RendersLike (x.run b).2 ∨ t.further α x := by
  cases h with
  | document => exact .inl (.refl b)
  | log level logger name fields hname => exact .inl ⟨rfl, rfl, rfl⟩
  | record kind message path => exact .inl ⟨rfl, rfl, rfl⟩
  | add s name body => exact .inl ⟨rfl, rfl, rfl⟩
  | further hstep => exact .inr hstep

/-- The course of a build from a bench: the stages that it passes through, and its result. -/
inductive Course (w : Workshop) (t : Terms) :
    {α : Type} → Build α → Bench → List Stage → Except Fault α × Bench → Prop
  | pure {α : Type} (a : α) (b : Bench) : Course w t (Pure.pure a) b [] (.ok a, b)
  | plain {α : Type} {x : Build α} (h : Plain w t x) (b : Bench) : Course w t x b [⟨none, (x.run b).2⟩] (x.run b)
  | rendering (item : Option Item) (snippet : Snippet) (hsnippet : snippet ∈ w.manager.snippets)
      (hitem : t.renders item) (b : Bench) :
      Course w t (renderJson w item snippet true) b
        [⟨some ⟨item, snippet, b⟩, numbered item b⟩, ⟨none, ((renderJson w item snippet true).run b).2⟩]
        ((renderJson w item snippet true).run b)
  | bind {α β : Type} {x : Build α} {f : α → Build β} {b c : Bench} {a : α} {first second : List Stage}
      {result : Except Fault β × Bench} (hx : Course w t x b first (.ok a, c))
      (hf : Course w t (f a) c second result) : Course w t (x >>= f) b (first ++ second) result
  | stop {α β : Type} {x : Build α} {f : α → Build β} {b c : Bench} {e : Fault} {first : List Stage}
      (hx : Course w t x b first (.error e, c)) : Course w t (x >>= f) b first (.error e, c)
  | recovered {x : Build (Option Path)} {b c : Bench} {e : RenderError} {first : List Stage}
      (hx : Course w t x b first (.error (.render e), c)) :
      Course w t (recovering w x) b
        (first ++ [⟨none, recorded ⟨.renderFailed, w.manager.name, e.message, some e.templateFile⟩ c⟩])
        (.ok none, recorded ⟨.renderFailed, w.manager.name, e.message, some e.templateFile⟩ c)
  | passed {x : Build (Option Path)} {b : Bench} {first : List Stage} {result : Except Fault (Option Path) × Bench}
      (hx : Course w t x b first result) (hresult : ∀ e, result.1 ≠ .error (.render e)) :
      Course w t (recovering w x) b first result

variable {w : Workshop} {t : Terms} {α : Type}

/-- A build that is put together from steps has a course. -/
theorem Composed.exists_course {within : List String} {x : Build α} {post : α → Prop}
    (hx : Composed w t within x post) (b : Bench) : ∃ stages, Course w t x b stages (x.run b) := by
  induction hx generalizing b with
  | pure _ => exact ⟨[], .pure _ b⟩
  | @bind _ _ x f _ _ hx _ ihx ihf =>
      obtain ⟨first, hfirst⟩ := ihx b
      rw [run_bind]
      cases hrun : x.run b with
      | mk r c =>
          rw [hrun] at hfirst
          cases r with
          | error e => exact ⟨first, .stop hfirst⟩
          | ok a =>
              obtain ⟨second, hsecond⟩ := ihf a (hx.post hrun) c
              exact ⟨first ++ second, .bind hfirst hsecond⟩
  | document => exact ⟨_, .plain .document b⟩
  | log level logger name fields hname => exact ⟨_, .plain (.log level logger name fields hname) b⟩
  | record kind message path => exact ⟨_, .plain (.record kind message path) b⟩
  | add s _ name body => exact ⟨_, .plain (.add s name body) b⟩
  | renderJson item snippet hsnippet hitem => exact ⟨_, .rendering item snippet hsnippet hitem b⟩
  | @recovering x _ _ ih =>
      obtain ⟨first, hfirst⟩ := ih b
      rw [recovering_run]
      cases hrun : x.run b with
      | mk r c =>
          rw [hrun] at hfirst
          cases r with
          | ok a => exact ⟨first, .passed hfirst fun _ h => by cases h⟩
          | error f =>
              cases f with
              | render e => exact ⟨_, .recovered hfirst⟩
              | template e => exact ⟨first, .passed hfirst fun _ h => by cases h⟩
              | disk e => exact ⟨first, .passed hfirst fun _ h => by cases h⟩
  | further h => exact ⟨_, .plain (.further h) b⟩

namespace Course

variable {x : Build α} {b : Bench} {stages : List Stage} {result : Except Fault α × Bench}

/-- A course ends with the result of the build. -/
theorem run_eq (h : Course w t x b stages result) : x.run b = result := by
  induction h with
  | pure a b => rfl
  | plain _ b => rfl
  | rendering item snippet _ _ b => rfl
  | bind _ _ ihx ihf =>
      rw [run_bind, ihx]
      exact ihf
  | stop _ ih => rw [run_bind, ih]
  | recovered _ ih =>
      rw [recovering_run, ih]
      rfl
  | @passed _ _ _ result _ hresult ih =>
      obtain ⟨r, c⟩ := result
      rw [recovering_run, ih]
      cases r with
      | ok a => rfl
      | error f =>
          cases f with
          | render e => exact absurd rfl (hresult e)
          | template e => rfl
          | disk e => rfl

theorem reached_eq (h : Course w t x b stages result) : reached b stages = result.2 := by
  induction h with
  | pure a b => rfl
  | plain _ b => rfl
  | rendering item snippet _ _ b => rfl
  | bind _ _ ihx ihf =>
      rw [reached_append, ihx]
      exact ihf
  | stop _ ih => exact ih
  | recovered _ ih => rw [reached_append]; rfl
  | passed _ _ ih => exact ih

/-- All renderings are of snippets of the process manager, for something that the terms allow. -/
theorem of_mem_renderings (h : Course w t x b stages result) {r : Rendering} (hr : r ∈ renderings stages) :
    r.snippet ∈ w.manager.snippets ∧ t.renders r.item := by
  induction h with
  | pure a b => cases hr
  | plain _ b => cases hr
  | rendering item snippet hsnippet hitem b =>
      have heq : r = ⟨item, snippet, b⟩ := List.mem_singleton.mp hr
      rw [heq]
      exact ⟨hsnippet, hitem⟩
  | bind _ _ ihx ihf =>
      rw [renderings_append, List.mem_append] at hr
      exact hr.elim ihx ihf
  | stop _ ih => exact ih hr
  | recovered _ ih =>
      rw [renderings_append, List.mem_append] at hr
      exact hr.elim ih fun h => by cases h
  | passed _ _ ih => exact ih hr

theorem prefix_append_cases {point first second : List Stage} (h : point <+: first ++ second) :
    point <+: first ∨ ∃ rest, point = first ++ rest ∧ rest <+: second := by
  rcases List.prefix_or_prefix_of_prefix h (List.prefix_append first second) with hshort | ⟨rest, rfl⟩
  · exact .inl hshort
  · exact .inr ⟨rest, rfl, (List.prefix_append_right_inj first).mp h⟩

/-- What is so from the bench before each step to the bench after it is so from the start to every point of a course,
along with the renderings that began meanwhile. -/
theorem along {R : Bench → List Rendering → Bench → Prop} (hrefl : ∀ b, R b [] b)
    (htrans : ∀ {a b c past more}, R a past b → R b more c → R a (past ++ more) c)
    (hplain : ∀ {β : Type} (y : Build β) b, Plain w t y → R b [] (y.run b).2)
    (hbegun : ∀ item snippet b, R b [⟨item, snippet, b⟩] (numbered item b))
    (hover : ∀ item snippet b, R b [⟨item, snippet, b⟩] ((renderJson w item snippet true).run b).2)
    (h : Course w t x b stages result) {point : List Stage} (hpoint : point <+: stages) :
    R b (renderings point) (reached b point) := by
  induction h generalizing point with
  | pure a b =>
      rw [List.prefix_nil.mp hpoint]
      exact hrefl b
  | plain hx b =>
      rcases List.prefix_cons_iff.mp hpoint with rfl | ⟨rest, rfl, hrest⟩
      · exact hrefl b
      · rw [List.prefix_nil.mp hrest]
        exact hplain _ b hx
  | rendering item snippet hsnippet hitem b =>
      rcases List.prefix_cons_iff.mp hpoint with rfl | ⟨rest, rfl, hrest⟩
      · exact hrefl b
      · rcases List.prefix_cons_iff.mp hrest with rfl | ⟨more, rfl, hmore⟩
        · exact hbegun item snippet b
        · rw [List.prefix_nil.mp hmore]
          exact hover item snippet b
  | bind hx hf ihx ihf =>
      rcases prefix_append_cases hpoint with hfirst | ⟨rest, rfl, hrest⟩
      · exact ihx hfirst
      · have hwhole := ihx (List.prefix_refl _)
        rw [hx.reached_eq] at hwhole
        rw [renderings_append, reached_append, hx.reached_eq]
        exact htrans hwhole (ihf hrest)
  | stop _ ih => exact ih hpoint
  | @recovered _ _ c e _ hx ih =>
      rcases prefix_append_cases hpoint with hfirst | ⟨rest, rfl, hrest⟩
      · exact ih hfirst
      · have hwhole := ih (List.prefix_refl _)
        rw [hx.reached_eq] at hwhole
        rw [renderings_append, reached_append, hx.reached_eq]
        rcases List.prefix_cons_iff.mp hrest with rfl | ⟨more, rfl, hmore⟩
        · exact htrans hwhole (hrefl c)
        · rw [List.prefix_nil.mp hmore]
          exact htrans hwhole (hplain _ c (.record .renderFailed e.message (some e.templateFile)))
  | passed _ _ ih => exact ih hpoint

end Course

end Build

end WorkflowForge
