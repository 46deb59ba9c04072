import WorkflowForge.Text.Lines
import WorkflowForge.Text.Casing

/-!
Path names. Empty segments and single dots are dropped as a name is read; a double dot is kept, since what it means
depends on the disk. Two leading slashes are kept apart from one.
-/

namespace WorkflowForge

structure Path where
  /-- The number of slashes in front: none for a relative path, two only where exactly two were written. -/
  slashes : Nat
  parts : List String
deriving DecidableEq, Inhabited, Repr

namespace Path

def leadingSlashes (cs : List Char) : Nat :=
  match (cs.takeWhile (· == '/')).length with
  | 0 => 0
  | 2 => 2
  | _ => 1

def partsOf (s : String) : List String := (Text.splitText '/' s).filter fun part => part != "" && part != "."

def ofText (s : String) : Path := ⟨leadingSlashes s.toList, partsOf s⟩

def isAbsolute (p : Path) : Bool := p.slashes != 0

def toText (p : Path) : String :=
  if p.slashes == 0 && p.parts.isEmpty then "."
  else String.ofList (List.replicate p.slashes '/') ++ String.intercalate "/" p.parts

/-- A path below another; an absolute one stands on its own. -/
def join (p q : Path) : Path := if q.isAbsolute then q else { p with parts := p.parts ++ q.parts }

/-- The path named by a text below another. -/
def below (p : Path) (s : String) : Path := p.join (ofText s)

def parent (p : Path) : Path := { p with parts := p.parts.dropLast }

def name (p : Path) : String := p.parts.getLast?.getD ""

/-- The name cut before its last dot, unless the dot is its first or last character. -/
def splitName (p : Path) : String × String :=
  let cs := p.name.toList
  let tail := cs.reverse.takeWhile (· != '.')
  let stem := cs.take (cs.length - tail.length - 1)
  if tail.length < cs.length && !tail.isEmpty && !stem.isEmpty then
    (String.ofList stem, String.ofList ('.' :: tail.reverse))
  else (p.name, "")

def stem (p : Path) : String := p.splitName.1

/-- The last dot of the name and what follows it. -/
def suffix (p : Path) : String := p.splitName.2

/-- Whether the suffix is one of the given ones, in any case. -/
def hasSuffixIn (p : Path) (suffixes : List String) : Bool := suffixes.contains (Text.lower p.suffix)

end Path

end WorkflowForge
