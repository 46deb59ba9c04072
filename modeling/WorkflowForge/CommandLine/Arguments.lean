import WorkflowForge.Text.Lines
import WorkflowForge.Text.Quoted

/-!
Options and arguments on a command line. A long option takes its value behind an equals sign or from the next word; short
options may stand together in one word, and the first of them that takes a value takes the rest of the word, or the next
word where nothing is left. A double dash ends the options.
-/

namespace WorkflowForge

/-- What is wrong with a path that was given as a value. -/
inductive PathComplaint where
  | fileMissing (name : String)
  | fileIsDirectory (name : String)
  | directoryIsFile (name : String)
deriving DecidableEq, Repr, Inhabited

def PathComplaint.message : PathComplaint → String
  | .fileMissing name => s!"File {Text.quoted name} does not exist."
  | .fileIsDirectory name => s!"File {Text.quoted name} is a directory."
  | .directoryIsFile name => s!"Directory {Text.quoted name} is a file."

/-- Why a command line is refused. -/
inductive UsageError where
  | noSuchOption (name : String)
  | needsArgument (name : String)
  | takesNoValue (name : String)
  | noSuchCommand (name : String)
  | missingArgument (name : String)
  | extraArguments (args : List String)
  /-- A value that its option or argument, named in front, cannot have. -/
  | badPath (place : String) (complaint : PathComplaint)
deriving DecidableEq, Repr, Inhabited

def UsageError.message : UsageError → String
  | .noSuchOption name => s!"No such option {Text.quoted name}."
  | .needsArgument name => s!"Option {Text.quoted name} requires an argument."
  | .takesNoValue name => s!"Option {Text.quoted name} does not take a value."
  | .noSuchCommand name => s!"No such command {Text.quoted name}."
  | .missingArgument name => s!"Missing argument '{name}'."
  | .extraArguments args =>
    let noun := if args.length == 1 then "argument" else "arguments"
    "Got unexpected extra " ++ noun ++ " (" ++ String.intercalate " " args ++ ")"
  | .badPath place complaint => s!"Invalid value for {place}: {complaint.message}"

/-- An option, known by what it stands for. -/
structure OptionSpec (κ : Type) where
  key : κ
  short : Option Char
  long : String
  takesValue : Bool

/-- An option as it was given, with its value where it takes one. -/
abbrev Given (κ : Type) := κ × String

namespace OptionSpec

variable {κ : Type}

/-- The options in one word, and the option at its end that still lacks its value, with its name. -/
structure Word (κ : Type) where
  given : List (Given κ)
  pending : Option (κ × String)

/-- Short options in one word, behind its dash. -/
def readShort (specs : List (OptionSpec κ)) : List Char → Except UsageError (Word κ)
  | [] => .ok ⟨[], none⟩
  | c :: rest =>
    let name := String.ofList ['-', c]
    match specs.find? (·.short == some c) with
    | none => .error (.noSuchOption name)
    | some spec =>
      if spec.takesValue then
        if rest.isEmpty then .ok ⟨[], some (spec.key, name)⟩ else .ok ⟨[(spec.key, String.ofList rest)], none⟩
      else
        match readShort specs rest with
        | .ok word => .ok { word with given := (spec.key, "") :: word.given }
        | .error e => .error e

/-- The name in a word, and the value behind an equals sign. -/
def splitValue (word : String) : String × Option String :=
  let cs := word.toList
  let name := cs.takeWhile (· != '=')
  if name.length < cs.length then (String.ofList name, some (String.ofList (cs.drop (name.length + 1))))
  else (word, none)

def readWord (specs : List (OptionSpec κ)) (word : String) : Except UsageError (Word κ) :=
  let (name, value) := splitValue word
  match specs.find? (·.long == name) with
  | some spec =>
    match value, spec.takesValue with
    | some v, true => .ok ⟨[(spec.key, v)], none⟩
    | none, true => .ok ⟨[], some (spec.key, name)⟩
    | some _, false => .error (.takesNoValue name)
    | none, false => .ok ⟨[(spec.key, "")], none⟩
  | none =>
    match word.toList with
    | '-' :: '-' :: _ => .error (.noSuchOption name)
    | cs => readShort specs (cs.drop 1)

def isOption (word : String) : Bool :=
  match word.toList with
  | '-' :: _ :: _ => true
  | _ => false

/-- The options and the arguments among some words. Unless they may be mixed, the first argument ends the options. -/
def parse (specs : List (OptionSpec κ)) (mixed : Bool) :
    List String → Except UsageError (List (Given κ) × List String)
  | [] => .ok ([], [])
  | word :: rest =>
    if word == "--" then .ok ([], rest)
    else if !isOption word then
      if mixed then (parse specs mixed rest).map fun (given, args) => (given, word :: args)
      else .ok ([], word :: rest)
    else
      match readWord specs word with
      | .error e => .error e
      | .ok ⟨given, none⟩ => (parse specs mixed rest).map fun (more, args) => (given ++ more, args)
      | .ok ⟨given, some (key, name)⟩ =>
        match rest with
        | [] => .error (.needsArgument name)
        | value :: rest => (parse specs mixed rest).map fun (more, args) => (given ++ (key, value) :: more, args)

end OptionSpec

end WorkflowForge
