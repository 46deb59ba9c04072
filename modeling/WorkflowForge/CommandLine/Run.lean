import WorkflowForge.CommandLine.Arguments
import WorkflowForge.CommandLine.Wording
import WorkflowForge.Generation.Generator
import WorkflowForge.Log.Format
import WorkflowForge.Migration.Load
import WorkflowForge.Settings.Load

/-!
The command line: options for every command, and the command that generates workflows from a model file. The settings
are loaded as soon as the command is known, before its own arguments are looked at.
-/

namespace WorkflowForge

namespace CommandLine

inductive GlobalOption where
  | config
  | verbose
  | quiet
  | version
  | help
deriving DecidableEq, Repr, Inhabited

def globalOptions : List (OptionSpec GlobalOption) :=
  [⟨.config, some 'c', "--config", true⟩, ⟨.verbose, some 'v', "--verbose", false⟩,
    ⟨.quiet, some 'q', "--quiet", false⟩, ⟨.version, none, "--version", false⟩, ⟨.help, none, "--help", false⟩]

inductive GenerateOption where
  | templatePath
  | output
  | help
deriving DecidableEq, Repr, Inhabited

def generateOptions : List (OptionSpec GenerateOption) :=
  [⟨.templatePath, some 't', "--template-path", true⟩, ⟨.output, some 'o', "--output", true⟩,
    ⟨.help, none, "--help", false⟩]

def versionText : String := "flowsmith, version 0.4.0"

/-- A command and the words that may follow it. -/
structure Usage where
  command : String
  words : String

namespace Usage

def line (u : Usage) : String := s!"Usage: {u.command} {u.words}"

def hint (u : Usage) : String := s!"Try '{u.command} --help' for help."

end Usage

def globalUsage : Usage := ⟨"flowsmith", "[OPTIONS] COMMAND [ARGS]..."⟩

def generateUsage : Usage := ⟨"flowsmith generate", "[OPTIONS] MODEL_FILE"⟩

def globalHelp : List String :=
  [globalUsage.line, "", "  flowsmith - assemble Logic App Standard workflows from migration snippets.", "",
    "Options:",
    "  --version          Show the version and exit.",
    "  -c, --config PATH  Path to config file (overrides ./flowsmith.yaml).",
    "  -v, --verbose      Increase verbosity (-v for INFO, -vv for DEBUG).",
    "  -q, --quiet        Suppress non-essential output (ERROR level only).",
    "  --help             Show this message and exit.", "",
    "Commands:",
    "  generate  Generate Logic App Standard workflows from a migration model."]

def generateHelp : List String :=
  [generateUsage.line, "", "  Generate Logic App Standard workflows from a migration model.", "",
    "  MODEL_FILE is a YAML or JSON migration model listing the target applications",
    "  and their process managers.", "",
    "Options:",
    "  -t, --template-path DIRECTORY  Snippet search directory (repeatable, searched",
    "                                 in order). Replaces the configured template",
    "                                 paths.",
    "  -o, --output DIRECTORY         Root directory for generated files (overrides",
    "                                 generation_path).",
    "  --help                         Show this message and exit."]

/-- Why a run breaks off without a message of its own. -/
inductive Crash where
  | settings (s : Settings.Stop)
  | load (s : LoadStop)
  | fault (f : Fault)

/-- How a run ends. -/
structure Finish where
  exitCode : Nat
  out : List String
  err : List String
  /-- The events that were written to the log, and how. -/
  events : List Event
  format : LogFormat
  crash : Option Crash
  disk : Disk

namespace Finish

def success (disk : Disk) (out : List String) : Finish := ⟨0, out, [], [], .json, none, disk⟩

def failure (disk : Disk) (out err : List String) : Finish := ⟨1, out, err, [], .json, none, disk⟩

def crashed (disk : Disk) (c : Crash) : Finish := ⟨1, [], [], [], .json, some c, disk⟩

/-- A command line that was refused, with the usage of the command it was refused for. -/
def misuse (disk : Disk) (u : Usage) (e : UsageError) : Finish :=
  ⟨2, [], [u.line, u.hint, "", "Error: " ++ e.message], [], .json, none, disk⟩

/-- The end of a run whose log was kept in a journal. -/
def logged (f : Finish) (s : LogSettings) (j : Journal) : Finish :=
  { f with events := j.events.filter s.admits, format := s.format }

/-- The lines of the log. -/
def logLines (f : Finish) : List String := f.events.map (Event.line f.format)

end Finish

/-- What is at a path that was given as a text; a text that ends with a slash names a directory only. -/
def entryAt (disk : Disk) (s : String) : Option Entry :=
  if s == "" then none
  else
    match (disk.find (.ofText s)).toOption with
    | some (.file content) =>
      match (Text.splitText '/' s).getLast? with
      | some "" | some "." => none
      | _ => some (.file content)
    | found => found

/-- A path that must not be a file; it need not be there. -/
def directoryAt (disk : Disk) (place s : String) : Except UsageError Path :=
  match entryAt disk s with
  | some (.file _) => .error (.badPath place (.directoryIsFile s))
  | _ => .ok (.ofText s)

/-- A path that must be a file. -/
def fileAt (disk : Disk) (place s : String) : Except UsageError Path :=
  match entryAt disk s with
  | some (.file _) => .ok (.ofText s)
  | some .directory => .error (.badPath place (.fileIsDirectory s))
  | none => .error (.badPath place (.fileMissing s))

/-- What is to be generated, and where. -/
structure GenerateRequest where
  model : Path
  templatePaths : List Path
  output : Option Path
deriving Inhabited

namespace GenerateRequest

/-- The values of an option, in their order. -/
def valuesOf (o : GenerateOption) (given : List (Given GenerateOption)) : List String :=
  (given.filter (·.1 == o)).map (·.2)

def checkTemplatePaths (disk : Disk) (given : List (Given GenerateOption)) : Except UsageError (List Path) :=
  (valuesOf .templatePath given).mapM (directoryAt disk "'-t' / '--template-path'")

/-- The output directory; the last that is given counts. -/
def checkOutput (disk : Disk) (given : List (Given GenerateOption)) : Except UsageError (Option Path) :=
  match (valuesOf .output given).getLast? with
  | none => .ok none
  | some s => (directoryAt disk "'-o' / '--output'" s).map some

def checkModel (disk : Disk) (args : List String) : Except UsageError Path :=
  match args with
  | [] => .error (.missingArgument "MODEL_FILE")
  | s :: _ => fileAt disk "'MODEL_FILE'" s

/-- The request in the words behind the command. Options are checked in the order in which they were first given, and
before the arguments. -/
def check (disk : Disk) (given : List (Given GenerateOption)) (args : List String) :
    Except UsageError GenerateRequest := do
  let outputFirst := (given.head?.map (·.1)) == some .output
  if outputFirst then discard (checkOutput disk given)
  let templatePaths ← checkTemplatePaths disk given
  let output ← checkOutput disk given
  let model ← checkModel disk args
  match args.drop 1 with
  | [] => return ⟨model, templatePaths, output⟩
  | extra => throw (.extraArguments extra)

/-- The settings with what the command line says instead. -/
def apply (r : GenerateRequest) (s : Settings) : Settings :=
  { s with
    templatePaths := if r.templatePaths.isEmpty then s.templatePaths else r.templatePaths
    generationPath := r.output.getD s.generationPath }

end GenerateRequest

def logger : String := "flowsmith.cli.commands.generate"

/-- The generator that settings describe. -/
def generatorOf (s : Settings) : Generator :=
  ⟨s.templatePaths, s.generationPath, Snippet.suffixes s.extensions, some s.jsonIndent, .standard⟩

def pathLines (quiet : Bool) (r : Report) : List String := if quiet then [] else r.written.map Path.toText

/-- Ends a generation that went through. -/
def finishReport (quiet : Bool) (target : Target) (r : Report) (disk : Disk) : Finish :=
  if r.skipped then
    .success disk
      [s!"Target environment '{target.name}' does not host Standard workflows, nothing to generate."]
  else
    .success disk (pathLines quiet r ++
      [Wording.summary r.written.length r.workflows.length r.warnings.length])

def finishStop (quiet : Bool) (stop : WorkflowForge.Stop) (disk : Disk) : Finish :=
  match stop with
  | .failed r =>
    .failure disk (pathLines quiet r) [Wording.error (failureMessage r.errors.length) (Wording.issues r.errors) none]
  | .cancelled _ => { Finish.failure disk [] [Wording.error "Generation interrupted" [] none] with exitCode := 130 }
  | .fault f => .crashed disk (.fault f)

/-- Generates what is asked for. -/
def generate (disk : Disk) (settings : Settings) (log : LogSettings) (quiet : Bool) (r : GenerateRequest) : Finish :=
  let settings := r.apply settings
  match MigrationModel.load disk r.model .empty with
  | (.error (.refused path f), j) => (Finish.failure disk [] [Wording.error (f.message path) [] none]).logged log j
  | (.error stop, j) => (Finish.crashed disk (.load stop)).logged log j
  | (.ok model, j) =>
    let j := Registration.logAll Registry.standardRegistrations j
    let (result, p) := ((generatorOf settings).generate none model).run (.start disk j 0)
    match result with
    | .error stop => (finishStop quiet stop p.disk).logged log p.journal
    | .ok report =>
      let j := if report.skipped then p.journal
        else p.journal.emit .debug logger "generate_command_finished" [("files", .int report.written.length)]
      (finishReport quiet model.target report p.disk).logged log j

/-- Whether help or the version is asked for, whichever comes first. -/
def eager? (given : List (Given GlobalOption)) : Option (List String) :=
  given.findSome? fun (o, _) =>
    match o with
    | .help => some globalHelp
    | .version => some [versionText]
    | _ => none

/-- The rank from which on events are written. -/
def rankOf (settings : Settings) (quiet : Bool) (verbose : Nat) : Int :=
  if quiet then Level.error.rank
  else
    match verbose with
    | 0 => settings.verbosity.rank
    | 1 => Level.info.rank
    | _ => Level.debug.rank

/-- What is printed where the settings are refused. -/
def refusalText (r : Settings.Refusal) : String :=
  let setting := match r.setting? with
    | some s => if s == "" then [] else ["Field: " ++ s]
    | none => []
  let value := match r.value with
    | .null => []
    | v => ["Value: " ++ v.display]
  Wording.error r.message (setting ++ value) none

/-- Runs the command behind the options, with the settings loaded. -/
def runCommand (disk : Disk) (env : Environment) (settings : Settings) (given : List (Given GlobalOption))
    (args : List String) : Finish :=
  let quiet := given.any (·.1 == .quiet)
  let verbose := (given.filter (·.1 == .verbose)).length
  let log := LogSettings.choose env false (some (rankOf settings quiet verbose))
  match args with
  | [] => .success disk globalHelp
  | _ :: args =>
    match OptionSpec.parse generateOptions true args with
    | .error e => .misuse disk generateUsage e
    | .ok (chosen, args) =>
      if chosen.any (·.1 == .help) then .success disk generateHelp
      else
        match GenerateRequest.check disk chosen args with
        | .error e => .misuse disk generateUsage e
        | .ok r => generate disk settings log quiet r

/-- What a name that is no command ends in; one that looks like an option is read as one first. -/
def refuseCommand (disk : Disk) (name : String) (args : List String) : Finish :=
  let refused := Finish.misuse disk globalUsage (.noSuchCommand name)
  match OptionSpec.parse globalOptions false (name :: args) with
  | .error e => .misuse disk globalUsage e
  | .ok (given, _) =>
    match eager? given with
    | some lines => .success disk lines
    | none => refused

/-- The settings file that is asked for; an empty name asks for none. -/
def configPath? (given : List (Given GlobalOption)) : Option Path :=
  match (given.filter (·.1 == .config)).getLast? with
  | some (_, s) => if s == "" then none else some (.ofText s)
  | none => none

/-- Runs the program on the words of a command line. -/
def run (disk : Disk) (env : Environment) (words : List String) : Finish :=
  match OptionSpec.parse globalOptions false words with
  | .error e => .misuse disk globalUsage e
  | .ok (given, args) =>
    match eager? given with
    | some lines => .success disk lines
    | none =>
      match args with
      | name :: rest => if name == "generate" then go given args else refuseCommand disk name rest
      | [] => go given []
where
  go (given : List (Given GlobalOption)) (args : List String) : Finish :=
    match (Settings.load disk env (configPath? given) .empty).1 with
    | .error (.refused r) => .failure disk [] [refusalText r]
    | .error stop => .crashed disk (.settings stop)
    | .ok settings => runCommand disk env settings given args

end CommandLine

end WorkflowForge
