import WorkflowForge.Text.Blank

/-!
Action paths: texts such as `$.Scope['inner one'].actions` that name a place below a scope. A segment is bare, or stands
in brackets between single or double quotes; anything else between segments is passed over. A leading `$` stands for
the scope itself.
-/

namespace WorkflowForge

namespace ActionPath

/-- Whether a character may stand in a bare segment. -/
def isBare (c : Char) : Bool := c != '.' && c != '[' && c != ']'

/-- The segment between two equal quotes and a closing bracket, where an opening bracket was read. -/
def bracketed? : List Char → Option (List Char × List Char)
  | [] => none
  | quote :: rest =>
    if quote == '\'' || quote == '"' then
      match rest.dropWhile (· != quote) with
      | _ :: ']' :: more => some (rest.takeWhile (· != quote), more)
      | _ => none
    else none

theorem dropWhile_length_le (p : Char → Bool) (cs : List Char) : (cs.dropWhile p).length ≤ cs.length :=
  (List.dropWhile_suffix p).length_le

theorem bracketed?_length {cs segment rest : List Char} (h : bracketed? cs = some (segment, rest)) :
    rest.length < cs.length := by
  unfold bracketed? at h
  split at h
  · simp at h
  · rename_i quote tail
    split at h
    · split at h
      · rename_i more heq
        have hle := dropWhile_length_le (· != quote) tail
        rw [heq] at hle
        simp only [Option.some.injEq, Prod.mk.injEq] at h
        obtain ⟨_, rfl⟩ := h
        simp only [List.length_cons] at hle ⊢
        omega
      · simp at h
    · simp at h

/-- The segments of a text, from left to right. -/
def scan : List Char → List (List Char)
  | [] => []
  | c :: rest =>
    if c == '[' then
      match h : bracketed? rest with
      | some (segment, more) =>
        have := bracketed?_length h
        segment :: scan more
      | none => scan rest
    else if isBare c then
      have := dropWhile_length_le isBare rest
      (c :: rest.takeWhile isBare) :: scan (rest.dropWhile isBare)
    else scan rest
termination_by cs => cs.length

/-- Drops a leading `$`. -/
def withoutRoot : List (List Char) → List (List Char)
  | ['$'] :: rest => rest
  | segments => segments

def parseChars (cs : List Char) : List (List Char) := withoutRoot (scan (Text.trim cs))

def parse (s : String) : List String := (parseChars s.toList).map String.ofList

end ActionPath

end WorkflowForge
