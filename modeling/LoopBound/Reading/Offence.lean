import LoopBound.Grammar.Match

/-!
# Offences

Two constructs are matched by the grammar and refused all the same: a `try` with nothing behind its
block, and a property of a pattern that has neither a key nor a name. They count only in the match
of a whole program, and the one that is completed first is reported: an inner one before the outer
one, an earlier one before a later one.
-/

namespace LoopBound.Reading

open LoopBound.Grammar

/-- What is wrong with a construct. -/
inductive Offence where
  | missingHandler
  | shorthandPattern
  deriving DecidableEq, Repr

/-- The tree is a match of the rule. -/
def isMatchOf (r : Rule) : Tree → Bool
  | .node q _ _ _ => q = r
  | .leaf .. => false

/-- The tree is a match of a binding target that is not an identifier. -/
def isUnnamedTarget : Tree → Bool
  | .node .bindingTarget _ _ ts => !ts.any (isMatchOf .identifier)
  | _ => false

/-- What is wrong with a construct itself, apart from what is inside it. -/
def ownOffence? : Tree → Option Offence
  | .node .tryStatement _ _ ts =>
    if ts.any fun t => isMatchOf .catchClause t || isMatchOf .finallyClause t then none
    else some .missingHandler
  | .node .patternProperty _ _ [.node .bindingElement _ _ ts] =>
    if ts.any isUnnamedTarget then some .shorthandPattern else none
  | _ => none

/-- All offences in the order in which the constructs are completed, each with the text from the
start of its construct. -/
def offences : Tree → List (Offence × List Char)
  | .leaf .. => []
  | .node r source n ts =>
    offencesIn ts ++ ((ownOffence? (.node r source n ts)).map (·, source)).toList
where
  offencesIn : List Tree → List (Offence × List Char)
    | [] => []
    | t :: ts => offences t ++ offencesIn ts

end LoopBound.Reading
