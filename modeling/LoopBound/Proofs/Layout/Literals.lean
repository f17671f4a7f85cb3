import LoopBound.Proofs.Layout.Writer

/-!
# The literals of a tree

A literal and the pieces of a template are printed as they were written, line feeds and all. Here
are their texts, in the order in which the printer comes to them. Nodes that are not printed are
left out: the value of a property that is named like its key, arguments of a `new` that has none,
substitutions of a template that has no piece behind them.
-/

namespace LoopBound.Layout

open LoopBound.Syntax

/-- A property shows its key, its value or both. -/
def propertyLiterals (isMethod shorthand hasDefault : Bool) (key value : List String) :
    List String :=
  if isMethod || !shorthand then key ++ value else if hasDefault then value else key

theorem propertyLiterals_both {isMethod shorthand : Bool} (hasDefault : Bool)
    (h : (isMethod || !shorthand) = true) (ks vs : List String) :
    propertyLiterals isMethod shorthand hasDefault ks vs = ks ++ vs :=
  if_pos h

theorem propertyLiterals_shorthand {isMethod shorthand : Bool} (hasDefault : Bool)
    (h : (isMethod || !shorthand) = false) (ks vs : List String) :
    propertyLiterals isMethod shorthand hasDefault ks vs = if hasDefault then vs else ks := by
  rw [propertyLiterals, h]
  rfl

mutual

/-- The texts of the literals and of the pieces of templates that are printed. -/
def literals : Node → List String
  | .literal raw _ _ => [raw]
  | .templateLiteral [] _ _ => []
  | .templateLiteral (q :: qs) es _ => q :: literalsBetween es qs
  | .program body _ => literalsIn body
  | .blockStatement body _ => literalsIn body
  | .emptyStatement _ => []
  | .expressionStatement x _ => literals x
  | .variableDeclarator id init _ => literals id ++ literalsOf init
  | .variableDeclaration _ ds _ => literalsIn ds
  | .functionDeclaration _ params body _ _ _ => literalsIn params ++ literals body
  | .classDeclaration _ superclass ms _ => literalsOf superclass ++ literalsIn ms
  | .ifStatement t c a _ => literals t ++ literals c ++ literalsOf a
  | .returnStatement a _ => literalsOf a
  | .breakStatement _ _ => []
  | .continueStatement _ _ => []
  | .throwStatement a _ => literals a
  | .catchClause c body _ => literalsOf c ++ literals body
  | .tryStatement b c f _ => literals b ++ literalsOf c ++ literalsOf f
  | .switchCase t ss _ => literalsOf t ++ literalsIn ss
  | .switchStatement x cs _ => literals x ++ literalsIn cs
  | .labeledStatement _ body _ => literals body
  | .debuggerStatement _ => []
  | .forStatement _ i t u body _ => literalsOf i ++ literalsOf t ++ literalsOf u ++ literals body
  | .forInStatement _ l r body _ => literals l ++ literals r ++ literals body
  | .forOfStatement _ l r body _ _ => literals l ++ literals r ++ literals body
  | .whileStatement _ t body _ => literals t ++ literals body
  | .doWhileStatement _ body t _ => literals body ++ literals t
  | .identifier _ _ => []
  | .taggedTemplateExpression t q _ => literals t ++ literals q
  | .thisExpression _ => []
  | .super _ => []
  | .arrayExpression es _ => literalsAmong es
  | .property k v kind _ shorthand method _ =>
    propertyLiterals (kind == .get || kind == .set || method) shorthand (isDefault v)
      (literals k) (literalsOf v)
  | .objectExpression ps _ => literalsIn ps
  | .spreadElement a _ => literals a
  | .restElement a _ => literals a
  | .assignmentPattern l r _ => literals l ++ literals r
  | .arrayPattern es _ => literalsAmong es
  | .objectPattern ps _ => literalsIn ps
  | .functionExpression _ params body _ _ _ => literalsIn params ++ literals body
  | .arrowFunctionExpression params body _ _ => literalsIn params ++ literals body
  | .methodDefinition k v _ _ _ _ => literals k ++ literals v
  | .propertyDefinition k v _ _ _ => literals k ++ literalsOf v
  | .classExpression _ superclass ms _ => literalsOf superclass ++ literalsIn ms
  | .unaryExpression _ a _ => literals a
  | .updateExpression _ a _ _ => literals a
  | .awaitExpression a _ => literals a
  | .yieldExpression a _ _ => literalsOf a
  | .binaryExpression _ l r _ => literals l ++ literals r
  | .conditionalExpression t c a _ => literals t ++ literals c ++ literals a
  | .assignmentExpression _ l r _ => literals l ++ literals r
  | .sequenceExpression es _ => literalsIn es
  | .memberExpression o p _ _ _ => literals o ++ literals p
  | .callExpression callee args _ _ => literals callee ++ literalsIn args
  | .newExpression callee true args _ => literals callee ++ literalsIn args
  | .newExpression callee false _ _ => literals callee
  | .parenthesizedExpression x _ => literals x

/-- Those of a list of nodes. -/
def literalsIn : List Node → List String
  | [] => []
  | n :: ns => literals n ++ literalsIn ns

/-- Those of a list of nodes with holes. -/
def literalsAmong : List (Option Node) → List String
  | [] => []
  | none :: os => literalsAmong os
  | some n :: os => literals n ++ literalsAmong os

/-- Those of a node that may be missing. -/
def literalsOf : Option Node → List String
  | none => []
  | some n => literals n

/-- Those of the substitutions of a template, with the piece behind each. -/
def literalsBetween : List Node → List String → List String
  | n :: ns, q :: qs => literals n ++ [q] ++ literalsBetween ns qs
  | _, _ => []

end

end LoopBound.Layout
