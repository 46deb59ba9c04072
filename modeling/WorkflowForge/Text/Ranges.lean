/-!
Character classes are kept as sorted lists of closed intervals of code points.
-/

namespace WorkflowForge.Text

/-- Whether a code point lies in one of the intervals. -/
def inRanges (table : List (Nat × Nat)) (n : Nat) : Bool :=
  table.any fun (low, high) => low ≤ n && n ≤ high

end WorkflowForge.Text
