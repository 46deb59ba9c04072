import WorkflowForge.Text.Lines

/-!
Path texts made safe for any file system. Backslashes count as slashes; the characters that some system refuses, and
spaces, are removed from every segment; segments left empty are dropped.
-/

namespace WorkflowForge

namespace SafePath

def isRefused (c : Char) : Bool :=
  c == '\\' || c == '/' || c == ':' || c == '*' || c == '?' || c == '"' || c == '<' || c == '>' || c == '|' || c == ' '

def slashed (cs : List Char) : List Char := cs.map fun c => if c == '\\' then '/' else c

/-- The segments of a safe path. -/
def segments (cs : List Char) : List (List Char) :=
  ((Text.splitAt '/' (slashed cs)).map fun part => part.filter fun c => !isRefused c).filter fun part => !part.isEmpty

def sanitize (cs : List Char) : List Char := Text.joinWith ['/'] (segments cs)

end SafePath

def safePath (s : String) : String := String.ofList (SafePath.sanitize s.toList)

end WorkflowForge
