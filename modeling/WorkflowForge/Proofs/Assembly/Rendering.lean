import WorkflowForge.Proofs.Assembly.Moves

/-!
The course of a rendering, written out. It takes a number, looks for the snippet's file, reads and renders that, keeps
the text for inspection where the snippet says so, and parses it. Every property of renderings is read off this one
equation.
-/

namespace WorkflowForge

namespace Build

/-- The bench after a rendering took its number. -/
def numbered (item : Option Item) (b : Bench) : Bench :=
  { b with
    ids := b.ids + 1
    stamps := match item with
      | some i => (i.place, b.ids + 1) :: b.stamps
      | none => b.stamps }

/-- The bench after a rendering found its file. -/
def found (snippet : Snippet) (source : Path) (b : Bench) : Bench :=
  { b with journal := Snippet.logFound snippet.templateFile source b.journal }

/-- The issue of a rendering that finds no file. -/
def missing (w : Workshop) (snippet : Snippet) : Issue :=
  ⟨.missingSnippet, w.manager.name, s!"Snippet file '{snippet.templateFile}' was not found on any template path",
    some snippet.resourceType⟩

/-- The bench with an issue recorded. -/
def recorded (issue : Issue) (b : Bench) : Bench :=
  { b with issues := b.issues ++ [issue], journal := issue.log b.journal }

/-- The text that a rendering reads from a file, or the reason why there is none. -/
def textOf (w : Workshop) (item : Option Item) (snippet : Snippet) (source : Path) (b : Bench) : Except Fault String :=
  match b.disk.readText source with
  | .error e => .error (.disk e)
  | .ok raw =>
    if Snippet.isTemplate w.suffixes source then
      renderText snippet.templateFile raw (w.environment b.stamps snippet item)
    else .ok raw

/-- Where the text of the next rendering is kept. -/
def nextTarget (w : Workshop) (item : Option Item) (snippet : Snippet) (source : Path) (b : Bench) : Path :=
  inspectionPath w snippet item source (b.ids + 1) (Snippet.isTemplate w.suffixes source)

/-- What keeping a text does to the disk. -/
def keep (templated : Bool) (source target : Path) (text : String) (d : Disk) : Except DiskError Unit × Disk :=
  if templated then d.writeText target text else d.copyFile source target

/-- The bench after a text was kept. -/
def kept (snippet : Snippet) (target : Path) (disk : Disk) (b : Bench) : Bench :=
  { b with
    disk := disk
    journal := b.journal.emit .debug "flowsmith.snippets.resolver" "snippet_debug_output_written"
      [("snippet", .string snippet.resourceType), ("path", .string target.toText)] }

theorem record_run (w : Workshop) (kind : IssueKind) (message : String) (path : Option String) (b : Bench) :
    (record w kind message path).run b = (.ok (), recorded ⟨kind, w.manager.name, message, path⟩ b) := rfl

theorem add_run_eq (s : Scope) (name : String) (body : Json) (b : Bench) :
    (add s name body).run b =
      (.ok (s.add b.document name body).1, { b with document := (s.add b.document name body).2 }) := rfl

/-- A step on the disk that is told of if it ends well. -/
theorem onDisk_debug_run (step : Disk → Except DiskError Unit × Disk) (logger name : String) (fields : Fields)
    (b : Bench) :
    (onDisk step >>= fun _ => debug logger name fields).run b = match step b.disk with
      | (.ok (), disk) => (.ok (), { b with disk := disk, journal := b.journal.emit .debug logger name fields })
      | (.error e, disk) => (.error (.disk e), { b with disk := disk }) := by
  rw [run_bind, onDisk_run]
  cases step b.disk with
  | mk result disk => cases result <;> rfl

theorem snippetText_run (w : Workshop) (item : Option Item) (snippet : Snippet) (source : Path) (b : Bench) :
    (snippetText w item snippet source).run b = (textOf w item snippet source b, b) := by
  rw [snippetText, run_get_bind, textOf]
  cases b.disk.readText source with
  | error e => rfl
  | ok raw =>
      dsimp only
      split
      · cases renderText snippet.templateFile raw (w.environment b.stamps snippet item) <;> rfl
      · rfl

theorem keepForInspection_run (w : Workshop) (snippet : Snippet) (item : Option Item) (source : Path) (text : String)
    (id : Int) (templated : Bool) (b : Bench) :
    (keepForInspection w snippet item source text id templated).run b =
      match keep templated source (inspectionPath w snippet item source id templated) text b.disk with
      | (.ok (), disk) => (.ok (), kept snippet (inspectionPath w snippet item source id templated) disk b)
      | (.error e, disk) => (.error (.disk e), { b with disk := disk }) := by
  have hsteps : keepForInspection w snippet item source text id templated =
      onDisk (keep templated source (inspectionPath w snippet item source id templated) text) >>= fun _ =>
        debug "flowsmith.snippets.resolver" "snippet_debug_output_written"
          [("snippet", .string snippet.resourceType),
            ("path", .string (inspectionPath w snippet item source id templated).toText)] := by
    cases templated with
    | true =>
        have hkeep : keep true source (inspectionPath w snippet item source id true) text =
            fun d => d.writeText (inspectionPath w snippet item source id true) text := by
          funext d
          rw [keep, if_pos rfl]
        rw [hkeep, keepForInspection, if_pos rfl]
    | false =>
        have hkeep : keep false source (inspectionPath w snippet item source id false) text =
            fun d => d.copyFile source (inspectionPath w snippet item source id false) := by
          funext d
          rw [keep, if_neg (by decide)]
        rw [hkeep, keepForInspection, if_neg (by decide)]
  rw [hsteps, onDisk_debug_run]
  cases keep templated source (inspectionPath w snippet item source id templated) text b.disk with
  | mk result disk => cases result <;> rfl

theorem parseRendered_run (snippet : Snippet) (text : String) (b : Bench) :
    (match parseRendered snippet text with
      | .ok v => Pure.pure v
      | .error f => throw f : Build (Option Json)).run b = (parseRendered snippet text, b) := by
  cases parseRendered snippet text <;> rfl

theorem renderJson_run (w : Workshop) (item : Option Item) (snippet : Snippet) (b : Bench) :
    (renderJson w item snippet true).run b =
      match Snippet.findFile w.templatePaths b.disk snippet.templateFile with
      | none => (.ok none, recorded (missing w snippet) (numbered item b))
      | some source =>
        match textOf w item snippet source (numbered item b) with
        | .error f => (.error f, found snippet source (numbered item b))
        | .ok text =>
          if snippet.outputPath.getD "" = "" then
            (parseRendered snippet text, found snippet source (numbered item b))
          else
            match keep (Snippet.isTemplate w.suffixes source) source (nextTarget w item snippet source b) text
                b.disk with
            | (.ok (), disk) =>
              (parseRendered snippet text,
                kept snippet (nextTarget w item snippet source b) disk (found snippet source (numbered item b)))
            | (.error e, disk) =>
              (.error (.disk e), { found snippet source (numbered item b) with disk := disk }) := by
  have hid : (nextId item).run b = (.ok (b.ids + 1), numbered item b) := rfl
  have hdisk : (numbered item b).disk = b.disk := rfl
  rw [renderJson, run_bind, hid]
  dsimp only
  rw [run_get_bind, hdisk]
  cases Snippet.findFile w.templatePaths b.disk snippet.templateFile with
  | none => rfl
  | some source =>
      have hfound : (modify fun c => { c with journal := Snippet.logFound snippet.templateFile source c.journal } :
          Build Unit).run (numbered item b) = (.ok (), found snippet source (numbered item b)) := rfl
      have htext : textOf w item snippet source (found snippet source (numbered item b)) =
          textOf w item snippet source (numbered item b) := rfl
      dsimp only
      rw [run_bind, hfound]
      dsimp only
      rw [run_bind, snippetText_run, htext]
      cases textOf w item snippet source (numbered item b) with
      | error f => rfl
      | ok text =>
          dsimp only
          by_cases houtput : snippet.outputPath.getD "" = ""
          · rw [if_pos houtput, if_neg (by simp [houtput])]
            exact parseRendered_run snippet text _
          · have hdisk : (found snippet source (numbered item b)).disk = b.disk := rfl
            rw [if_neg houtput, if_pos (by simp [houtput]), run_bind, keepForInspection_run, hdisk, ← nextTarget]
            cases keep (Snippet.isTemplate w.suffixes source) source (nextTarget w item snippet source b) text
                b.disk with
            | mk result disk =>
                cases result with
                | ok => exact parseRendered_run snippet text _
                | error e => rfl

end Build

/-- Two benches on which renderings come to the same. -/
structure Bench.RendersLike (b c : Bench) : Prop where
  ids : c.ids = b.ids
  stamps : c.stamps = b.stamps
  disk : c.disk = b.disk

namespace Bench.RendersLike

theorem refl (b : Bench) : RendersLike b b := ⟨rfl, rfl, rfl⟩

theorem symm {b c : Bench} (h : RendersLike b c) : RendersLike c b := ⟨h.ids.symm, h.stamps.symm, h.disk.symm⟩

theorem trans {b c d : Bench} (h : RendersLike b c) (h' : RendersLike c d) : RendersLike b d :=
  ⟨h'.ids.trans h.ids, h'.stamps.trans h.stamps, h'.disk.trans h.disk⟩

end Bench.RendersLike

end WorkflowForge
