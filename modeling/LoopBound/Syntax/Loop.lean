import LoopBound.Syntax.Walk
import LoopBound.Text.Lowercase
import LoopBound.Text.Blank

/-!
# Loops

The six kinds of loops, and what a loop statement is apart from its header: a number that tells it
from the other loops of its tree, a kind and a body.
-/

namespace LoopBound.Syntax

open LoopBound.Text

/-- The kinds of loops. -/
inductive LoopKind where
  | for | while | doWhile | forOf | forIn | forAwaitOf
  deriving DecidableEq, Repr, Inhabited

namespace LoopKind

/-- The name of a kind. -/
def name : LoopKind → String
  | .for => "for"
  | .while => "while"
  | .doWhile => "do-while"
  | .forOf => "for-of"
  | .forIn => "for-in"
  | .forAwaitOf => "for-await-of"

/-- All kinds, in the order in which they are listed. -/
def all : List LoopKind :=
  [.for, .while, .doWhile, .forOf, .forIn, .forAwaitOf]

theorem mem_all (k : LoopKind) : k ∈ all := by
  cases k <;> decide

/-- The kind with exactly this name. -/
def ofName? (s : String) : Option LoopKind :=
  all.find? fun k => k.name == s

/-- A name as it is looked up: without white space at its ends and in lower case. -/
def normalName (s : String) : String :=
  lowercase (trim s)

/-- The kind that a text names. -/
def ofText? (s : String) : Option LoopKind :=
  ofName? (normalName s)

end LoopKind

/-- What all loop statements have. -/
structure Loop where
  id : LoopId
  kind : LoopKind
  body : Node

namespace Node

/-- The node as a loop, if it is one. -/
def loop? : Node → Option Loop
  | forStatement id _ _ _ body _ => some ⟨id, .for, body⟩
  | forInStatement id _ _ body _ => some ⟨id, .forIn, body⟩
  | forOfStatement id _ _ body isAwait _ =>
    some ⟨id, if isAwait then .forAwaitOf else .forOf, body⟩
  | whileStatement id _ body _ => some ⟨id, .while, body⟩
  | doWhileStatement id body _ _ => some ⟨id, .doWhile, body⟩
  | _ => none

/-- The number of the loop that the node is. -/
def loopId? (n : Node) : Option LoopId :=
  n.loop?.map (·.id)

/-- The loop with another body; a node that is no loop stays as it is. -/
def withLoopBody (n body : Node) : Node :=
  match n with
  | forStatement id i t u _ p => forStatement id i t u body p
  | forInStatement id l r _ p => forInStatement id l r body p
  | forOfStatement id l r _ a p => forOfStatement id l r body a p
  | whileStatement id t _ p => whileStatement id t body p
  | doWhileStatement id _ t p => doWhileStatement id body t p
  | n => n

/-- The loop with another number; a node that is no loop stays as it is. -/
def withLoopId (id : LoopId) : Node → Node
  | forStatement _ i t u b p => forStatement id i t u b p
  | forInStatement _ l r b p => forInStatement id l r b p
  | forOfStatement _ l r b a p => forOfStatement id l r b a p
  | whileStatement _ t b p => whileStatement id t b p
  | doWhileStatement _ b t p => doWhileStatement id b t p
  | n => n

/-- The loop with this number in the tree. -/
def findLoop? (root : Node) (id : LoopId) : Option Node :=
  root.preorder.find? fun n => n.loopId? == some id

end Node

end LoopBound.Syntax
