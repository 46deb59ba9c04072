import WorkflowForge.Proofs.Assembly.Rendering
import WorkflowForge.Proofs.Template.Verbatim

/-!
Renderings of files without a tag. Whether such a file counts as a template or not, the rendering reads the same text,
takes the same number and stamp, records the same issues and ends with the same value or for the same cause. What
differs is the text kept for inspection: it is written under another name for a template than for a plain file, so one
of the two may fail where the other does not.
-/

namespace WorkflowForge

namespace Build

/-- What a rendering does to the disk: it keeps its text for inspection where the snippet says so. -/
def inspected (w : Workshop) (item : Option Item) (snippet : Snippet) (source : Path) (text : String) (b : Bench) :
    Except DiskError Unit × Disk :=
  if snippet.outputPath.getD "" = "" then (.ok (), b.disk)
  else keep (Snippet.isTemplate w.suffixes source) source (nextTarget w item snippet source b) text b.disk

/-- A rendering takes a text as it stands: apart from the journal and the text kept for inspection it only takes its
number, and it ends with the value of the text unless that could not be kept. -/
structure TakesVerbatim (w : Workshop) (item : Option Item) (snippet : Snippet) (source : Path) (text : String)
    (b : Bench) (r : Except Fault (Option Json) × Bench) : Prop where
  bench : r.2 = { numbered item b with journal := r.2.journal, disk := (inspected w item snippet source text b).2 }
  kept : (inspected w item snippet source text b).1 = .ok () → r.1 = parseRendered snippet text
  stopped : ∀ e, (inspected w item snippet source text b).1 = .error e → r.1 = .error (.disk e)

/-- Two renderings end with the same value, or with errors that have the same cause, each with the name of its file. -/
def SameOutcome (file other : String) (r s : Except Fault (Option Json)) : Prop :=
  (∃ v, r = .ok v ∧ s = .ok v) ∨
    ∃ cause, r = .error (.render ⟨file, cause⟩) ∧ s = .error (.render ⟨other, cause⟩)

theorem sameOutcome_parseRendered (snippet other : Snippet) (text : String) :
    SameOutcome snippet.templateFile other.templateFile (parseRendered snippet text) (parseRendered other text) := by
  unfold parseRendered
  cases Json.read text with
  | error e => exact .inr ⟨_, rfl, rfl⟩
  | ok v => cases v <;> exact .inl ⟨_, rfl, rfl⟩

/-- How a missing file is reported plays no part where the file is found. -/
theorem renderJson_run_of_found {w : Workshop} {snippet : Snippet} {source : Path} {b : Bench}
    (hfound : Snippet.findFile w.templatePaths b.disk snippet.templateFile = some source) (item : Option Item)
    (asIssue : Bool) : (renderJson w item snippet asIssue).run b = (renderJson w item snippet true).run b := by
  have hid : (nextId item).run b = (.ok (b.ids + 1), numbered item b) := rfl
  have hdisk : (numbered item b).disk = b.disk := rfl
  rw [renderJson, renderJson, run_bind, run_bind, hid]
  dsimp only
  rw [run_get_bind, run_get_bind, hdisk, hfound]

section

variable {b : Bench} {source : Path} {content : String} (hcontent : b.disk.readContent source = .ok (.text content))
  (hverbatim : Template.IsVerbatim content.toList)

include hcontent hverbatim

theorem textOf_of_isVerbatim (w : Workshop) (item : Option Item) (snippet : Snippet) :
    textOf w item snippet source (numbered item b) = .ok (Text.withUnixLines content) := by
  have hread : (numbered item b).disk.readText source = .ok (Text.withUnixLines content) := by
    change b.disk.readText source = _
    rw [Disk.readText, hcontent]
    rfl
  have hunix : Text.withUnixLines (Text.withUnixLines content) = Text.withUnixLines content := by
    simp only [Text.withUnixLines, String.toList_ofList, Text.unifyLineEnds_unifyLineEnds]
  have hunified : Template.IsVerbatim (Text.withUnixLines content).toList := by
    rw [Text.withUnixLines, String.toList_ofList]
    exact Template.isVerbatim_unifyLineEnds hverbatim
  rw [textOf, hread]
  dsimp only
  split
  · rw [renderText, Template.render_of_isVerbatim hunified, hunix]
  · rfl

/-- A file without a tag is taken as it stands, whether it counts as a template or not. -/
theorem renderJson_takesVerbatim (w : Workshop) (item : Option Item) (snippet : Snippet) (asIssue : Bool)
    (hfound : Snippet.findFile w.templatePaths b.disk snippet.templateFile = some source) :
    TakesVerbatim w item snippet source (Text.withUnixLines content) b
      ((renderJson w item snippet asIssue).run b) := by
  rw [renderJson_run_of_found hfound, renderJson_run, hfound]
  dsimp only
  rw [textOf_of_isVerbatim hcontent hverbatim]
  dsimp only
  by_cases houtput : snippet.outputPath.getD "" = ""
  · rw [if_pos houtput]
    have hnone : inspected w item snippet source (Text.withUnixLines content) b = (.ok (), b.disk) := if_pos houtput
    refine ⟨?_, fun _ => rfl, fun e he => ?_⟩
    · rw [hnone]
      rfl
    · rw [hnone] at he
      cases he
  · rw [if_neg houtput]
    have hkeep : inspected w item snippet source (Text.withUnixLines content) b =
        keep (Snippet.isTemplate w.suffixes source) source (nextTarget w item snippet source b)
          (Text.withUnixLines content) b.disk := if_neg houtput
    rw [← hkeep]
    cases hresult : inspected w item snippet source (Text.withUnixLines content) b with
    | mk outcome disk =>
        cases outcome with
        | ok =>
            refine ⟨by rw [hresult]; rfl, fun _ => rfl, fun e he => ?_⟩
            rw [hresult] at he
            cases he
        | error e =>
            refine ⟨by rw [hresult]; rfl, fun hok => ?_, fun e he => ?_⟩
            · rw [hresult] at hok
              cases hok
            · rw [hresult] at he
              cases he
              rfl

end

/-- Two snippets that differ in the name of their file, under suffixes by which one of the files may be a template and
the other not: if both files hold one text in which no tag opens, both renderings take it as it stands, with the same
numbers, stamps, issues and document, and end alike unless the text of one of them cannot be kept for inspection. -/
theorem template_agrees_with_plain_file (w : Workshop) (suffixes : List String) (item : Option Item) (snippet : Snippet)
    (file : String) (asIssue : Bool) (b : Bench) (source other : Path) (content : String)
    (hsource : Snippet.findFile w.templatePaths b.disk snippet.templateFile = some source)
    (hother : Snippet.findFile w.templatePaths b.disk file = some other)
    (hcontent : b.disk.readContent source = .ok (.text content))
    (hsame : b.disk.readContent other = .ok (.text content)) (hverbatim : Template.IsVerbatim content.toList) :
    let v := { w with suffixes := suffixes }
    let copy := { snippet with templateFile := file }
    let r := (renderJson w item snippet asIssue).run b
    let s := (renderJson v item copy asIssue).run b
    let text := Text.withUnixLines content
    TakesVerbatim w item snippet source text b r ∧ TakesVerbatim v item copy other text b s ∧
      ((inspected w item snippet source text b).1 = .ok () → (inspected v item copy other text b).1 = .ok () →
        SameOutcome snippet.templateFile file r.1 s.1) := by
  intro v copy r s text
  have hr : TakesVerbatim w item snippet source text b r :=
    renderJson_takesVerbatim hcontent hverbatim w item snippet asIssue hsource
  have hs : TakesVerbatim v item copy other text b s :=
    renderJson_takesVerbatim hsame hverbatim v item copy asIssue hother
  refine ⟨hr, hs, fun hkept hkept' => ?_⟩
  rw [hr.kept hkept, hs.kept hkept']
  exact sameOutcome_parseRendered snippet copy text

/-- A text that closes tags and opens none, with all kinds of line ends. -/
def strayMarks : String := "\r\n\x7b\"a\": \"\x7d\x7d %\x7d #\x7d\",\r\"b\": \x7b\n\x7d\x7d\n\r\n"

theorem exists_parseRendered_strayMarks :
    ∃ fields, ∀ snippet, parseRendered snippet (Text.withUnixLines strayMarks) = .ok (some (.object fields)) := by
  have hobject : (((Json.read (Text.withUnixLines strayMarks)).toOption.bind Json.asObject?).map Fields.names) =
      some ["a", "b"] := by decide +kernel
  cases hread : Json.read (Text.withUnixLines strayMarks) with
  | error e =>
      rw [hread] at hobject
      cases hobject
  | ok v =>
      rw [hread] at hobject
      cases v with
      | object fields => exact ⟨fields, fun snippet => by rw [parseRendered, hread]⟩
      | _ => cases hobject

def strayWorkshop : Workshop :=
  { (default : Workshop) with
    templatePaths := [.ofText "t"]
    generationPath := .ofText "generated"
    suffixes := Snippet.suffixes Snippet.defaultExtensions }

def straySnippet : Snippet := ⟨"x", "x.json.j2", some "debug"⟩

/-- The text as a template and as a plain file. -/
def strayDisk : Disk where
  entries :=
    [(["t"], .directory), (["t", "x.json.j2"], .file (.text strayMarks)), (["t", "x.txt"], .file (.text strayMarks))]
  workingDirectory := []
  home := []

/-- A directory stands where the text of the template would be kept. -/
def blockedDisk : Disk :=
  { strayDisk with
    entries := strayDisk.entries ++ [(["generated"], .directory), (["generated", "debug"], .directory),
      (["generated", "debug", "1.workflow.x.json"], .directory)] }

def freshBench (d : Disk) : Bench := { (default : Bench) with disk := d }

theorem template_agrees_with_plain_file_stray :
    Snippet.isTemplate strayWorkshop.suffixes (.ofText "t/x.json.j2") = true ∧
      Snippet.isTemplate strayWorkshop.suffixes (.ofText "t/x.txt") = false ∧
      ∃ fields,
        ((renderJson strayWorkshop none straySnippet true).run (freshBench strayDisk)).1 =
          .ok (some (.object fields)) ∧
        ((renderJson strayWorkshop none { straySnippet with templateFile := "x.txt" } true).run
          (freshBench strayDisk)).1 = .ok (some (.object fields)) := by
  obtain ⟨fields, hfields⟩ := exists_parseRendered_strayMarks
  obtain ⟨hr, hs, hsame⟩ := template_agrees_with_plain_file strayWorkshop strayWorkshop.suffixes none straySnippet
    "x.txt" true (freshBench strayDisk) (.ofText "t/x.json.j2") (.ofText "t/x.txt") strayMarks
    (by decide +kernel) (by decide +kernel) (by decide +kernel) (by decide +kernel) (by decide +kernel)
  have hvalue := (hr.kept (by decide +kernel)).trans (hfields _)
  refine ⟨by decide +kernel, by decide +kernel, fields, hvalue, ?_⟩
  rcases hsame (by decide +kernel) (by decide +kernel) with ⟨v, hv, hv'⟩ | ⟨cause, hcause, _⟩
  · rw [hv', ← hv, hvalue]
  · rw [hvalue] at hcause
    cases hcause

/-- Nothing in the text is to be rendered, but the template fails where the same file gives a value as a plain one. -/
theorem kept_text_stops_the_template :
    Template.IsVerbatim strayMarks.toList ∧
      ((renderJson strayWorkshop none straySnippet true).run (freshBench blockedDisk)).1 =
        .error (.disk .isDirectory) ∧
      ∃ fields, ((renderJson { strayWorkshop with suffixes := [] } none straySnippet true).run
        (freshBench blockedDisk)).1 = .ok (some (.object fields)) := by
  obtain ⟨fields, hfields⟩ := exists_parseRendered_strayMarks
  have hverbatim : Template.IsVerbatim strayMarks.toList := by decide +kernel
  have hcontent : blockedDisk.readContent (.ofText "t/x.json.j2") = .ok (.text strayMarks) := by decide +kernel
  have hfound : Snippet.findFile strayWorkshop.templatePaths blockedDisk straySnippet.templateFile =
      some (.ofText "t/x.json.j2") := by decide +kernel
  have hplain := renderJson_takesVerbatim (b := freshBench blockedDisk) hcontent hverbatim
    { strayWorkshop with suffixes := [] } none straySnippet true hfound
  have htemplate := renderJson_takesVerbatim (b := freshBench blockedDisk) hcontent hverbatim
    strayWorkshop none straySnippet true hfound
  exact ⟨hverbatim, htemplate.stopped .isDirectory (by decide +kernel), fields,
    (hplain.kept (by decide +kernel)).trans (hfields _)⟩

end Build

end WorkflowForge
