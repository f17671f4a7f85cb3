import LoopBound.Syntax.Node

/-!
# Chains of operators

A chain is operands with binary operators between them. It is folded into a tree by precedence: of
two operators the one that binds tighter goes below, and of two that bind alike the left one does,
except for `**`, where the right one does.

The fold keeps a stack of operands that still wait for their right side, the tightest on top, so
each operator is looked at once when it arrives and once when it is closed.
-/

namespace LoopBound.Reading

open LoopBound.Syntax

/-- The binary operators. -/
inductive BinaryOperator where
  | coalesce | or | and | bitOr | bitXor | bitAnd
  | equal | notEqual | identical | notIdentical
  | less | greater | lessEqual | greaterEqual | instanceOf | in
  | shiftLeft | shiftRight | shiftRightZero
  | plus | minus | times | divide | remainder | power
  deriving DecidableEq, Repr

namespace BinaryOperator

/-- The spelling. -/
def spelling : BinaryOperator → String
  | coalesce => "??" | or => "||" | and => "&&" | bitOr => "|" | bitXor => "^" | bitAnd => "&"
  | equal => "==" | notEqual => "!=" | identical => "===" | notIdentical => "!=="
  | less => "<" | greater => ">" | lessEqual => "<=" | greaterEqual => ">="
  | instanceOf => "instanceof" | .in => "in"
  | shiftLeft => "<<" | shiftRight => ">>" | shiftRightZero => ">>>"
  | plus => "+" | minus => "-" | times => "*" | divide => "/" | remainder => "%" | power => "**"

/-- How tightly the operator binds. -/
def precedence : BinaryOperator → Nat
  | coalesce => 1 | or => 2 | and => 3 | bitOr => 4 | bitXor => 5 | bitAnd => 6
  | equal => 7 | notEqual => 7 | identical => 7 | notIdentical => 7
  | less => 8 | greater => 8 | lessEqual => 8 | greaterEqual => 8 | instanceOf => 8 | .in => 8
  | shiftLeft => 9 | shiftRight => 9 | shiftRightZero => 9
  | plus => 10 | minus => 10 | times => 11 | divide => 11 | remainder => 11 | power => 12

/-- All binary operators. -/
def all : List BinaryOperator := [
  coalesce, or, and, bitOr, bitXor, bitAnd, equal, notEqual, identical, notIdentical,
  less, greater, lessEqual, greaterEqual, instanceOf, .in,
  shiftLeft, shiftRight, shiftRightZero, plus, minus, times, divide, remainder, power]

/-- The operator with this spelling. -/
def ofSpelling? (s : String) : Option BinaryOperator :=
  all.find? fun op => op.spelling == s

/-- In a chain `a p b q c`, the operator `p` takes `b`. -/
def closesBefore (p q : BinaryOperator) : Bool :=
  p.precedence > q.precedence || (p.precedence == q.precedence && q != power)

end BinaryOperator

/-- An operand whose operator still waits for its right side. -/
abbrev Waiting := List (Node × BinaryOperator)

/-- Joins two operands; the node begins where the left one does. -/
def joined (left : Node) (op : BinaryOperator) (right : Node) : Node :=
  .binaryExpression op.spelling left right left.loc

/-- Closes the waiting operators that take `right` before `op` does. -/
def closeBefore (op : BinaryOperator) : Waiting → Node → Waiting × Node
  | [], right => ([], right)
  | (left, p) :: waiting, right =>
    if p.closesBefore op then closeBefore op waiting (joined left p right)
    else ((left, p) :: waiting, right)

/-- Closes all waiting operators. -/
def closeAll (waiting : Waiting) (right : Node) : Node :=
  waiting.foldl (fun right (left, p) => joined left p right) right

/-- Folds the rest of a chain, `operand` being the last operand before it. -/
def foldRest (waiting : Waiting) (operand : Node) : List (BinaryOperator × Node) → Node
  | [] => closeAll waiting operand
  | (op, next) :: rest =>
    let (waiting, left) := closeBefore op waiting operand
    foldRest ((left, op) :: waiting) next rest

/-- Folds a chain by precedence. -/
def foldChain (first : Node) (rest : List (BinaryOperator × Node)) : Node :=
  foldRest [] first rest

/-- Why operands and operators do not form a chain. -/
inductive ChainError where
  | countMismatch
  | unknownOperator (spelling : String)
  deriving DecidableEq, Repr

/-- Pairs spelled operators with their right operands. -/
def pairOperators : List String → List Node → Except ChainError (List (BinaryOperator × Node))
  | s :: spellings, operand :: operands =>
    match BinaryOperator.ofSpelling? s with
    | some op => return (op, operand) :: (← pairOperators spellings operands)
    | none => throw (.unknownOperator s)
  | _, _ => return []

/-- Folds operands with spelled operators between them. -/
def foldBinary (operands : List Node) (operators : List String) : Except ChainError Node :=
  match operands with
  | first :: rest =>
    if rest.length = operators.length then
      return foldChain first (← pairOperators operators rest)
    else throw .countMismatch
  | [] => throw .countMismatch

end LoopBound.Reading
