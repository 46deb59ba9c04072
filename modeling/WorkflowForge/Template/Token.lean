import WorkflowForge.Number.Double
import WorkflowForge.Text.Quoted

/-!
Tokens of a template: plain text, the marks that open and close a tag, and what stands inside a tag. The names under
which complaints refer to tokens are given here too.
-/

namespace WorkflowForge.Template

/-- Operators and punctuation inside a tag. -/
inductive Mark where
  | add | sub | mul | div | floorDiv | mod | pow | tilde
  | eq | ne | lt | le | gt | ge
  | leftBracket | rightBracket | leftParen | rightParen | leftBrace | rightBrace
  | assign | dot | colon | pipe | comma | semicolon
deriving DecidableEq, Repr, Inhabited

namespace Mark

def text : Mark → String
  | .add => "+"
  | .sub => "-"
  | .mul => "*"
  | .div => "/"
  | .floorDiv => "//"
  | .mod => "%"
  | .pow => "**"
  | .tilde => "~"
  | .eq => "=="
  | .ne => "!="
  | .lt => "<"
  | .le => "<="
  | .gt => ">"
  | .ge => ">="
  | .leftBracket => "["
  | .rightBracket => "]"
  | .leftParen => "("
  | .rightParen => ")"
  | .leftBrace => "\x7b"
  | .rightBrace => "\x7d"
  | .assign => "="
  | .dot => "."
  | .colon => ":"
  | .pipe => "|"
  | .comma => ","
  | .semicolon => ";"

/-- Every mark, those of two characters first. -/
def all : List Mark :=
  [floorDiv, pow, eq, ne, ge, le, add, sub, div, mul, mod, tilde, leftBracket, rightBracket, leftParen, rightParen,
    leftBrace, rightBrace, gt, lt, assign, dot, colon, pipe, comma, semicolon]

/-- The mark that closes what a mark opens. -/
def closing? : Mark → Option Mark
  | .leftBracket => some .rightBracket
  | .leftParen => some .rightParen
  | .leftBrace => some .rightBrace
  | _ => none

def isClosing (m : Mark) : Bool := m == rightBracket || m == rightParen || m == rightBrace

end Mark

/-- The kind of tag that is open: one that prints or one that controls. -/
inductive Tag where
  | print
  | statement
deriving DecidableEq, Repr, Inhabited

inductive TokenKind where
  | data (text : String)
  | opening (tag : Tag)
  | closing (tag : Tag)
  | name (s : String)
  | string (s : String)
  | integer (n : Nat)
  | float (x : Double)
  | mark (m : Mark)
  | ending
  /-- The text cannot be read on from here. -/
  | fault (message : String)
deriving DecidableEq, Repr, Inhabited

structure Token where
  kind : TokenKind
  line : Nat
deriving DecidableEq, Repr, Inhabited

namespace TokenKind

/-- How a complaint refers to a token. -/
def describe : TokenKind → String
  | .data _ => "template data / text"
  | .opening .print => "begin of print statement"
  | .opening .statement => "begin of statement block"
  | .closing .print => "end of print statement"
  | .closing .statement => "end of statement block"
  | .name s => s
  | .string _ => "string"
  | .integer _ => "integer"
  | .float _ => "float"
  | .mark m => m.text
  | .ending => "end of template"
  | .fault message => message

def isName (s : String) : TokenKind → Bool
  | .name t => t == s
  | _ => false

end TokenKind

end WorkflowForge.Template
