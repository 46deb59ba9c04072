import WorkflowForge.Text.Blank

/-!
Finding, replacing and splitting by a text.
-/

namespace WorkflowForge.Text

/-- The offset of the first occurrence of a text. -/
def find? (needle : List Char) : List Char → Option Nat
  | [] => if needle.isEmpty then some 0 else none
  | c :: rest => if needle.isPrefixOf (c :: rest) then some 0 else (find? needle rest).map (· + 1)

/-- Replaces the first occurrences of a text that is not empty, as many as the limit allows. While `skip` is not zero
the characters belong to an occurrence already replaced. -/
def replaceFrom (old new : List Char) : (limit : Option Nat) → (skip : Nat) → List Char → List Char
  | _, _, [] => []
  | limit, skip + 1, _ :: rest => replaceFrom old new limit skip rest
  | limit, 0, c :: rest =>
    if limit != some 0 && old.isPrefixOf (c :: rest) then
      new ++ replaceFrom old new (limit.map (· - 1)) (old.length - 1) rest
    else c :: replaceFrom old new limit 0 rest

/-- Puts a text before every character and at the end, as often as the limit allows. -/
def interleave (new : List Char) : (limit : Option Nat) → List Char → List Char
  | some 0, cs => cs
  | _, [] => new
  | limit, c :: rest => new ++ c :: interleave new (limit.map (· - 1)) rest

def replaceText (old new : List Char) (limit : Option Nat) (cs : List Char) : List Char :=
  if old.isEmpty then interleave new limit cs else replaceFrom old new limit 0 cs

/-- The pieces between the first occurrences of a text that is not empty. -/
def splitFrom (sep : List Char) : (limit : Option Nat) → (skip : Nat) → List Char → List (List Char)
  | _, _, [] => [[]]
  | limit, skip + 1, _ :: rest => splitFrom sep limit skip rest
  | limit, 0, c :: rest =>
    if limit != some 0 && sep.isPrefixOf (c :: rest) then
      [] :: splitFrom sep (limit.map (· - 1)) (sep.length - 1) rest
    else
      match splitFrom sep limit 0 rest with
      | [] => [[c]]
      | piece :: pieces => (c :: piece) :: pieces

/-- The words between white space. -/
def words : List Char → List (List Char)
  | [] => []
  | c :: rest =>
    if isBlank c then words rest
    else
      match rest with
      | [] => [[c]]
      | d :: _ =>
        if isBlank d then [c] :: words rest
        else
          match words rest with
          | [] => [[c]]
          | word :: more => (c :: word) :: more

/-- How often a text occurs without overlap. -/
def occurrences (needle : List Char) (cs : List Char) : Nat :=
  if needle.isEmpty then cs.length + 1 else (splitFrom needle none 0 cs).length - 1

end WorkflowForge.Text
