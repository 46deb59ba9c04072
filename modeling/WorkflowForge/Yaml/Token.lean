/-!
Tokens of a YAML text, and the ways in which a text can fail to be read.
-/

namespace WorkflowForge.Yaml

/-- Why a text is not read: it is no YAML, or a value in it does not exist. -/
inductive Mistake where
  | malformed
  /-- A number or a date that is written in a form it cannot have. -/
  | badValue
  /-- A word that is no truth value. -/
  | badWord
  /-- A value without any characters where one is needed. -/
  | noCharacters
  /-- A moment that is not written as one. -/
  | noMoment
  /-- A character number far out of range. -/
  | tooLarge
deriving DecidableEq, Repr, Inhabited

/-- A tag as it is written: a handle, where it has one, and the rest. -/
structure WrittenTag where
  handle : Option String
  suffix : String
deriving DecidableEq, Repr, Inhabited

inductive Token where
  | versionDirective (major : Nat)
  | tagDirective (handle start : String)
  | otherDirective
  | documentStart
  | documentEnd
  | streamEnd
  | blockSequenceStart
  | blockMappingStart
  | blockEnd
  | flowSequenceStart
  | flowSequenceEnd
  | flowMappingStart
  | flowMappingEnd
  | blockEntry
  | flowEntry
  | key
  | value
  | alias (name : String)
  | anchor (name : String)
  | tag (t : WrittenTag)
  | scalar (text : String) (plain : Bool)
  | fault (m : Mistake)
deriving DecidableEq, Repr, Inhabited

end WorkflowForge.Yaml
