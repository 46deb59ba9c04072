import WorkflowForge.Issue

/-!
What the command line prints at the end of a run.
-/

namespace WorkflowForge

namespace Wording

/-- An error with its details below it, and a suggestion at the end. -/
def error (message : String) (details : List String) (suggestion : Option String) : String :=
  let suggestion := suggestion.getD ""
  let last := if suggestion == "" then [] else ["Suggestion: " ++ suggestion]
  String.intercalate "\n" (("Error: " ++ message) :: details.map ("  " ++ ·) ++ last)

/-- A number and a noun, which takes an ending unless the number is one. -/
def counted (n : Int) (noun : String) : String := if n == 1 then s!"{n} {noun}" else s!"{n} {noun}s"

def summary (files workflows warnings : Int) : String :=
  let text := "Generated " ++ counted files "file" ++ " for " ++ counted workflows "workflow"
  if warnings == 0 then text else text ++ " (" ++ counted warnings "warning" ++ ")"

def issues (is : List Issue) : List String := is.map Issue.displayWithKind

end Wording

end WorkflowForge
