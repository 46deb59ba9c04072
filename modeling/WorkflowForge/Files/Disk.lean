import WorkflowForge.Files.Path

/-!
The file tree. Every directory and file is listed with its location, the names that lead to it from the root; what a
path names is found by walking it from the working directory, through directories that are there. A step that fails
half-way leaves what it did before.
-/

namespace WorkflowForge

abbrev Location := List String

/-- What a file holds: text, or bytes that are no text. -/
inductive Content where
  | text (s : String)
  | raw (bytes : ByteArray)
deriving Inhabited

instance : DecidableEq Content
  | .text s, .text t => decidable_of_decidable_of_iff (p := s = t) (by simp)
  | .raw a, .raw b =>
    have := ByteArray.instDecidableEq a b
    decidable_of_decidable_of_iff (p := a = b) (by simp)
  | .text _, .raw _ => isFalse (by simp)
  | .raw _, .text _ => isFalse (by simp)

inductive Entry where
  | directory
  | file (content : Content)
deriving DecidableEq, Inhabited

inductive DiskError where
  | notFound
  | notDirectory
  | isDirectory
  | alreadyThere
  | sameFile
  | busy
  | undecodable
deriving DecidableEq, Repr, Inhabited

structure Disk where
  entries : List (Location × Entry)
  workingDirectory : Location
  home : Location
deriving Inhabited

namespace Disk

/-- What is at a location. -/
def entryAt? (d : Disk) : Location → Option Entry
  | [] => some .directory
  | location => d.entries.lookup location

def setEntry (location : Location) (e : Entry) : List (Location × Entry) → List (Location × Entry)
  | [] => [(location, e)]
  | (l, old) :: rest => if l == location then (l, e) :: rest else (l, old) :: setEntry location e rest

def put (d : Disk) (location : Location) (e : Entry) : Disk := { d with entries := setEntry location e d.entries }

/-- Walks from a location; every directory that is left must be there. -/
def walk (d : Disk) : Location → List String → Except DiskError Location
  | here, [] => .ok here
  | here, step :: steps =>
    match d.entryAt? here with
    | none => .error .notFound
    | some (.file _) => .error .notDirectory
    | some .directory => if step == ".." then walk d here.dropLast steps else walk d (here ++ [step]) steps

def start (d : Disk) (p : Path) : Location := if p.isAbsolute then [] else d.workingDirectory

/-- The location a path names; there need not be anything at it. -/
def locate (d : Disk) (p : Path) : Except DiskError Location := d.walk (d.start p) p.parts

/-- What a path names. -/
def find (d : Disk) (p : Path) : Except DiskError Entry := do
  match d.entryAt? (← d.locate p) with
  | some e => return e
  | none => throw .notFound

def isFile (d : Disk) (p : Path) : Bool :=
  match d.find p with
  | .ok (.file _) => true
  | _ => false

def isDirectory (d : Disk) (p : Path) : Bool :=
  match d.find p with
  | .ok .directory => true
  | _ => false

def isThere (d : Disk) (p : Path) : Bool := (d.find p).isOk

def readContent (d : Disk) (p : Path) : Except DiskError Content := do
  match ← d.find p with
  | .file content => return content
  | .directory => throw .isDirectory

/-- The text of a file, with one kind of line end. -/
def readText (d : Disk) (p : Path) : Except DiskError String := do
  match ← d.readContent p with
  | .text s => return Text.withUnixLines s
  | .raw _ => throw .undecodable

/-- Makes one directory. -/
def makeOne (d : Disk) (p : Path) : Except DiskError Disk := do
  let location ← d.locate p
  match d.entryAt? location with
  | some _ => throw .alreadyThere
  | none => return d.put location .directory

/-- Makes one directory unless it is there. -/
def ensureOne (d : Disk) (p : Path) : Except DiskError Unit × Disk :=
  match d.makeOne p with
  | .ok d => (.ok (), d)
  | .error e => if d.isDirectory p then (.ok (), d) else (.error e, d)

/-- Makes the directory whose parts are given from the last to the first, and those above it that are missing. A
directory above is made only after the directory itself could not be. -/
def ensureAbove (slashes : Nat) : List String → Disk → Except DiskError Unit × Disk
  | [], d => d.ensureOne ⟨slashes, []⟩
  | last :: above, d =>
    let path : Path := ⟨slashes, (last :: above).reverse⟩
    match d.makeOne path with
    | .error .notFound =>
      match ensureAbove slashes above d with
      | (.ok (), d) => d.ensureOne path
      | failed => failed
    | _ => d.ensureOne path

def ensureDirectory (d : Disk) (p : Path) : Except DiskError Unit × Disk := ensureAbove p.slashes p.parts.reverse d

/-- Puts a file in the place a path names, which must not be a directory. -/
def replaceFile (d : Disk) (p : Path) (content : Content) : Except DiskError Disk := do
  if p.parts.isEmpty || p.name == ".." then throw .busy
  let location ← d.locate p
  match d.entryAt? location with
  | some .directory => throw .isDirectory
  | _ => return d.put location (.file content)

/-- Writes a text, making the directories above the file first. -/
def writeText (d : Disk) (p : Path) (s : String) : Except DiskError Unit × Disk :=
  match d.ensureDirectory p.parent with
  | (.error e, d) => (.error e, d)
  | (.ok (), d) =>
    match d.replaceFile p (.text s) with
    | .ok d => (.ok (), d)
    | .error e => (.error e, d)

/-- Whether two paths name one thing that is there. -/
def areSame (d : Disk) (p q : Path) : Bool :=
  match d.locate p, d.locate q with
  | .ok l, .ok m => l == m && (d.entryAt? l).isSome
  | _, _ => false

/-- The disk with the content of one file copied to another. -/
def copied (d : Disk) (source target : Path) : Except DiskError Disk := do
  if d.areSame source target then throw .sameFile
  let content ← d.readContent source
  let location ← d.locate target
  match d.entryAt? location with
  | some .directory => throw .isDirectory
  | _ => return d.put location (.file content)

/-- Copies a file, making the directories above the target first. -/
def copyFile (d : Disk) (source target : Path) : Except DiskError Unit × Disk :=
  match d.ensureDirectory target.parent with
  | (.error e, d) => (.error e, d)
  | (.ok (), d) =>
    match d.copied source target with
    | .ok d => (.ok (), d)
    | .error e => (.error e, d)

/-- The files that are new or hold something else than before. -/
def changedFiles (before after : Disk) : List (Location × Content) :=
  after.entries.filterMap fun (location, e) =>
    match e with
    | .file content => if before.entryAt? location == some (.file content) then none else some (location, content)
    | .directory => none

def newDirectories (before after : Disk) : List Location :=
  after.entries.filterMap fun (location, e) =>
    match e with
    | .directory => if before.entryAt? location == some .directory then none else some location
    | .file _ => none

end Disk

end WorkflowForge
