/-!
White space: the six ASCII controls, the four separators below the space, and the spaces and line separators of
Unicode. Trimming removes it from both ends.
-/

namespace WorkflowForge.Text

def isBlank (c : Char) : Bool :=
  let n := c.toNat
  (9 ≤ n && n ≤ 13) || (28 ≤ n && n ≤ 32) || n == 0x85 || n == 0xa0 || n == 0x1680 || (0x2000 ≤ n && n ≤ 0x200a) ||
    n == 0x2028 || n == 0x2029 || n == 0x202f || n == 0x205f || n == 0x3000

def trimStart (cs : List Char) : List Char := cs.dropWhile isBlank

def trimEnd (cs : List Char) : List Char := (cs.reverse.dropWhile isBlank).reverse

def trim (cs : List Char) : List Char := trimEnd (trimStart cs)

/-- Whether nothing but white space is there. -/
def isBlankText (s : String) : Bool := s.toList.all isBlank

def trimmed (s : String) : String := String.ofList (trim s.toList)

end WorkflowForge.Text
