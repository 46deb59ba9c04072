import WorkflowForge.Data.Checked
import WorkflowForge.Files.Path
import WorkflowForge.Json.Reader
import WorkflowForge.Log.Event
import WorkflowForge.Snippet.File
import WorkflowForge.Text.Search

/-!
The settings of a run, and what loaded data must look like to be settings.
-/

namespace WorkflowForge

structure Settings where
  templatePaths : List Path
  generationPath : Path
  /-- The suffixes of templates, in lower case and with their dot. -/
  extensions : List String
  jsonIndent : Nat
  verbosity : Level
deriving Inhabited

namespace Settings

def defaults : Settings := ⟨[], .ofText "generated", Snippet.defaultExtensions, 4, .warning⟩

/-- The largest indentation that can be set. -/
def maxIndent : Nat := 8

def verbosities : List Level := [.error, .warning, .info, .debug]

/-- The extensions as suffixes: trimmed, in lower case, with a dot in front; blank ones are dropped. -/
def normalizeExtensions (extensions : List String) : List String :=
  (extensions.map fun s => String.ofList (Text.lowerChars (Text.trim s.toList))).filterMap fun s =>
    if s == "" then none else if s.toList.head? == some '.' then some s else some ("." ++ s)

/-- A whole number written in a text, with blanks around it, a sign, single underscores between digits, and nothing but
zeros behind a point. -/
def wholeNumber? (s : String) : Option Int :=
  let cs := Text.trim s.toList
  let cs := match cs with
    | '+' :: rest => if rest.head? == some '-' then [] else rest
    | cs => cs
  let whole := cs.takeWhile (· != '.')
  let cs := if (cs.drop (whole.length + 1)).all (· == '0') then whole else cs
  let apart := cs.head? != some '_' && cs.getLast? != some '_' && (Text.find? ['_', '_'] cs).isNone
  let digits := cs.filter (· != '_')
  if !apart then none
  else
    match digits with
    | '-' :: rest => if !rest.isEmpty && rest.all Char.isDigit then some (-(Json.digitsValue rest : Nat)) else none
    | digits => if !digits.isEmpty && digits.all Char.isDigit then some (Json.digitsValue digits : Nat) else none

end Settings

namespace Checked

/-- A path, given as a text. -/
def path (v : Datum) : Checked Path :=
  match v with
  | .text s => .ok (.ofText s)
  | _ => fail .pathType v

/-- A whole number, also as a truth value, a number without a fraction or a text. -/
def whole (v : Datum) : Checked Int :=
  let ofText (s : String) : Checked Int :=
    match Settings.wholeNumber? s with
    | some n => .ok n
    | none => fail .intParsing v
  match v with
  | .int n => .ok n
  | .bool b => .ok (if b then 1 else 0)
  | .float x =>
    match x.toInt? with
    | some n => .ok n
    | none => if x.isNaN || x.isInfinite then fail .notFinite v else fail .intFractional v
  | .text s => ofText s
  | .bytes b =>
    match String.fromUTF8? ⟨b.toArray⟩ with
    | some s => ofText s
    | none => fail .intParsing v
  | _ => fail .intType v

/-- A whole number from zero to a limit. -/
def upTo (limit : Nat) (v : Datum) : Checked Nat :=
  match whole v with
  | .error violations => .error violations
  | .ok n =>
    if n > limit then fail (.aboveLimit limit) v
    else if n < 0 then fail (.belowLimit 0) v
    else .ok n.toNat

def level (choices : List Level) (v : Datum) : Checked Level :=
  let refused := fail (.notAmong "literal_error" (choices.map Level.name)) v
  match v with
  | .text s =>
    match choices.find? (·.name == s) with
    | some l => .ok l
    | none => refused
  | _ => refused

end Checked

namespace Settings

open Checked

def checkTemplating (entries : Datum.Entries) : Checked (List String) :=
  field entries "extensions" (fun v => (listOf text v).map normalizeExtensions) defaults.extensions

def checkOutput (entries : Datum.Entries) : Checked Nat :=
  field entries "json_indent" (upTo maxIndent) defaults.jsonIndent

def checkTemplatePaths (entries : Datum.Entries) : Checked (List Path) :=
  field entries "template_paths" (listOf Checked.path) defaults.templatePaths

def check (entries : Datum.Entries) : Checked Settings := do
  let (templatePaths, generationPath, extensions, jsonIndent, verbosity) ←
    both (checkTemplatePaths entries) <|
      both (field entries "generation_path" Checked.path defaults.generationPath) <|
        both (field entries "templating" (structured "TemplatingConfig" checkTemplating) defaults.extensions) <|
          both (field entries "output" (structured "OutputConfig" checkOutput) defaults.jsonIndent) <|
            field entries "verbosity" (level verbosities) defaults.verbosity
  return ⟨templatePaths, generationPath, extensions, jsonIndent, verbosity⟩

end Settings

end WorkflowForge
