import LoopBound.Reading.Meaning
import LoopBound.Reading.Offence
import LoopBound.Syntax.Numbering
import LoopBound.Diagnostic.Report

/-!
# Reading a program

A text is matched against the grammar as far as it goes. If text is left over, that is the error;
only then do offences count; a match without either becomes a syntax tree with numbered loops.
-/

namespace LoopBound.Reading

open LoopBound.Syntax LoopBound.Grammar LoopBound.Diagnostic
open LoopBound.Text (Position excerpt quoted lineStarts)

/-- Why a text is no program. -/
inductive Problem where
  | leftOver (got : String)
  | offence (o : Offence)
  deriving DecidableEq, Repr

/-- Why and where a text is no program. -/
structure ReadError where
  problem : Problem
  position : Position
  deriving DecidableEq, Repr

namespace ReadError

/-- The message of an error. -/
def message (e : ReadError) : String :=
  match e.problem with
  | .leftOver got => "Unexpected input " ++ quoted got
  | .offence .missingHandler => "Missing catch or finally after try"
  | .offence .shorthandPattern => "Object pattern shorthand must be an identifier"

/-- The code of an error. -/
def code (e : ReadError) : Code :=
  match e.problem with
  | .leftOver _ => .incompleteParse
  | .offence _ => .invalidConstruct

/-- The text in front of which reading stopped. -/
def got (e : ReadError) : String :=
  match e.problem with
  | .leftOver got => got
  | .offence _ => ""

/-- The report of an error in a file. -/
def report (e : ReadError) (file : String) : Report :=
  ⟨.source e.got, e.code, e.message, .ofPosition e.position file, ""⟩

end ReadError

/-- How much of an excerpt an error shows. -/
def excerptWidth : Int :=
  20

/-- The position of a suffix in its text. -/
def suffixPosition (starts : Array Nat) (total : Nat) (suffix : List Char) : Position :=
  Position.search starts (total - suffix.length)

/-- The match of the program rule at the front of a text. -/
def matchProgram (cs : List Char) : Option Matched :=
  (Pattern.rule .program).match? cs

/-- The syntax tree of a match of the program rule. -/
def treeOf (locate : List Char → Position) (t : Tree) : Node :=
  match (Part.ofTree locate t).program? with
  | some n => n.number
  | none => .program [] ⟨1, 1⟩

/-- Reads a program. -/
def parse (text : String) : Except ReadError Node :=
  let cs := text.toList
  let total := cs.length
  let stoppedAt (n : Nat) : ReadError :=
    ⟨.leftOver (excerpt cs n excerptWidth), Position.ofOffset cs n⟩
  match matchProgram cs with
  | some ⟨n, [tree]⟩ =>
    if n < total then .error (stoppedAt n)
    else
      let starts := lineStarts cs
      match offences tree with
      | (o, source) :: _ => .error ⟨.offence o, suffixPosition starts total source⟩
      | [] => .ok (treeOf (suffixPosition starts total) tree)
  | _ => .error (stoppedAt 0)

end LoopBound.Reading
