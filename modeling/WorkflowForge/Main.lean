import WorkflowForge.CommandLine.Run

/-!
The program: it takes in the files below the working directory and below every absolute path on the command line,
runs, and writes what has changed.
-/

namespace WorkflowForge.Program

/-- The variables that settings are taken from. -/
def vars : List String :=
  ["FLOWSMITH_TEMPLATE_PATHS", "FLOWSMITH_GENERATION_PATH", "FLOWSMITH_TEMPLATING",
    "FLOWSMITH_TEMPLATING__EXTENSIONS", "FLOWSMITH_OUTPUT", "FLOWSMITH_OUTPUT__JSON_INDENT", "FLOWSMITH_VERBOSITY",
    LogSettings.levelVariable, LogSettings.formatVariable]

def environment : IO Environment := do
  let values ← vars.mapM fun name => do
    return (← IO.getEnv name).map fun value => (name, value)
  return values.filterMap id

def location (name : String) : Location := (Path.ofText name).parts

def content (bytes : ByteArray) : Content :=
  match String.fromUTF8? bytes with
  | some s => .text s
  | none => .raw bytes

/-- Takes in a directory that is there, with everything below it. -/
partial def takeDirectory (d : Disk) (entries : Array IO.FS.DirEntry) : IO Disk := do
  let mut disk := d
  for e in entries do
    let here := location e.path.toString
    if ← e.path.isDir then
      disk ← takeDirectory (disk.put here .directory) (← e.path.readDir)
    else
      disk := disk.put here (.file (content (← IO.FS.readBinFile e.path)))
  return disk

/-- Takes in the directories above a location. -/
def takeAbove (d : Disk) (here : Location) : Disk :=
  (List.range here.length).foldl (fun d n => d.put (here.take (n + 1)) .directory) d

def disk (args : List String) : IO Disk := do
  let cwd ← IO.currentDir
  let workingDirectory := location cwd.toString
  let home := location ((← IO.getEnv "HOME").getD "/")
  let start : Disk := takeAbove ⟨[], workingDirectory, home⟩ workingDirectory
  let mut disk ← takeDirectory start (← cwd.readDir)
  let userFile := Settings.userFile disk
  for path in userFile :: (args.map Path.ofText).filter Path.isAbsolute do
    let real := cwd / path.toText
    if ← real.isDir then
      disk ← takeDirectory (takeAbove disk path.parts) (← real.readDir)
    else if ← real.pathExists then
      disk := (takeAbove disk path.parts.dropLast).put path.parts (.file (content (← IO.FS.readBinFile real)))
  return disk

def nameOf (l : Location) : String := (Path.mk 1 l).toText

/-- Writes what a run has changed. -/
def write (before after : Disk) : IO Unit := do
  for l in Disk.newDirectories before after do
    IO.FS.createDirAll (nameOf l)
  for (l, c) in Disk.changedFiles before after do
    match c with
    | .text s => IO.FS.writeFile (nameOf l) s
    | .raw bytes => IO.FS.writeBinFile (nameOf l) bytes

def run (args : List String) : IO UInt32 := do
  let env ← environment
  let before ← disk args
  let finish := CommandLine.run before env args
  write before finish.disk
  for line in finish.logLines do
    IO.eprintln line
  for line in finish.out do
    IO.println line
  for line in finish.err do
    IO.eprintln line
  if finish.crash.isSome then
    IO.eprintln "The run broke off."
  return finish.exitCode.toUInt32

end WorkflowForge.Program

def main (args : List String) : IO UInt32 := WorkflowForge.Program.run args
