import LoopBound.Text.Quoted

/-!
# Error codes

A code is a family, a number, the phase in which the error arises and a title. Codes are written
`FAMILY-NNNN`; two codes are equal if family and number are.
-/

namespace LoopBound.Diagnostic

/-- The phase in which an error arises. -/
inductive Phase where
  | source | settings | printing | internal
  deriving DecidableEq, Repr, Inhabited

/-- The word for a phase. -/
def Phase.word : Phase → String
  | .source => "syntax"
  | .settings => "config"
  | .printing => "codegen"
  | .internal => "internal"

/-- The phase of this word. -/
def Phase.ofWord? (s : String) : Option Phase :=
  [Phase.source, .settings, .printing, .internal].find? fun p => p.word == s

/-- A number with at least four characters, its sign included. -/
def fourDigits (n : Int) : String :=
  let digits := toString n.natAbs
  let sign := if n < 0 then "-" else ""
  sign ++ String.ofList (List.replicate (4 - sign.length - digits.length) '0') ++ digits

/-- An error code. -/
structure Code where
  family : String
  number : Int
  phase : Phase
  title : String
  deriving Repr, Inhabited

namespace Code

/-- The written form. -/
def render (c : Code) : String :=
  c.family ++ "-" ++ fourDigits c.number

/-- The written form with the title, for a reader of logs. -/
def describe (c : Code) : String :=
  "ErrorCode(" ++ Text.quoted c.render ++ ", " ++ Text.quoted c.title ++ ")"

/-- The same family and number. -/
def same (c d : Code) : Bool :=
  c.family == d.family && c.number == d.number

def unexpectedInput : Code := ⟨"LG", 1000, .source, "unexpected input"⟩
def incompleteParse : Code := ⟨"LG", 1001, .source, "incomplete parse"⟩
def invalidConstruct : Code := ⟨"LG", 1002, .source, "invalid construct"⟩
def invalidMax : Code := ⟨"LG", 2000, .settings, "invalid max"⟩
def unknownLoopKind : Code := ⟨"LG", 2001, .settings, "unknown loop kind"⟩
def invalidOption : Code := ⟨"LG", 2002, .settings, "invalid option"⟩
def unsupportedNode : Code := ⟨"LG", 4000, .printing, "unsupported node"⟩
def internalError : Code := ⟨"LG", 9000, .internal, "internal error"⟩

/-- All codes with their names. -/
def all : List (String × Code) := [
  ("UNEXPECTED_INPUT", unexpectedInput), ("INCOMPLETE_PARSE", incompleteParse),
  ("INVALID_CONSTRUCT", invalidConstruct), ("INVALID_MAX", invalidMax),
  ("UNKNOWN_LOOP_KIND", unknownLoopKind), ("INVALID_OPTION", invalidOption),
  ("UNSUPPORTED_NODE", unsupportedNode), ("INTERNAL_ERROR", internalError)]

/-- The code of this name. -/
def named? (name : String) : Option Code :=
  all.lookup name

end Code

end LoopBound.Diagnostic
