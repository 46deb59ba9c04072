import WorkflowForge.Files.Path
import WorkflowForge.Issue

/-!
The report of a run: what was written, which workflows were built and which issues were found.
-/

namespace WorkflowForge

structure Report where
  written : List Path
  issues : List Issue
  workflows : List String
  /-- Whether the target takes no workflows of the kind that is generated. -/
  skipped : Bool
deriving Inhabited

namespace Report

def errors (r : Report) : List Issue := Issue.errors r.issues

def warnings (r : Report) : List Issue := Issue.warnings r.issues

def isSuccess (r : Report) : Bool := r.errors.isEmpty

end Report

/-- The message of a run that ends with so many errors. -/
def failureMessage (count : Nat) : String :=
  let noun := if count == 1 then "error" else "errors"
  s!"Workflow generation failed with {count} {noun}"

def cancellationMessage (workflow : String) : String := s!"Workflow generation cancelled before '{workflow}'"

end WorkflowForge
