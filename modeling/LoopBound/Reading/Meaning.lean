import LoopBound.Reading.Expression
import LoopBound.Reading.Operand
import LoopBound.Reading.Statement

/-!
# The meaning of a match

Every rule with the shape that makes its meaning. `Part.ofTree` folds a match tree bottom-up.
-/

namespace LoopBound.Reading

open LoopBound.Syntax LoopBound.Grammar
open LoopBound.Text (Position)

namespace Part

/-- The meaning of a rule that matched at `loc`, from the meanings of what it matched. -/
def ofRule (loc : Position) (r : Rule) (ps : List Part) : Part :=
  match r with
  | .identifier => identifier ps
  | .propertyIdentifier => propertyIdentifier ps
  | .declarationKind => declarationKind ps
  | .asyncPrefix => async
  | .generatorStar | .methodStar | .yieldDelegate => star
  | .staticPrefix => static
  | .accessorKind => accessorKind ps
  | .functionHead => functionHead ps
  | .comma => comma
  | .templateSubstitution =>
    match ps with
    | [expression n] => substitution n
    | _ => nothing
  | .templateLiteral => templateLiteral loc ps
  | .dotMember => dotMember ps
  | .computedMember => computedMember ps
  | .arguments => argumentsOf ps
  | .optionalChain => optionalChain ps
  | .functionBody | .block => blockOf loc ps
  | .functionRest => functionRest ps
  | .computedPropertyName => computedPropertyName ps
  | .propertyName => propertyName ps
  | .accessorMethod => accessorMethod loc ps
  | .asyncMethod => asyncMethod loc ps
  | .generatorMethod => method loc .init false true ps
  | .plainMethod => method loc .init false false ps
  | .spreadElement => spreadElement loc ps
  | .keyedProperty | .keyedPatternProperty => keyedProperty loc ps
  | .shorthandProperty => shorthandProperty ps
  | .propertyDefinition => propertyDefinition ps
  | .propertyDefinitions | .patternProperties => properties (ps.filterMap property?)
  | .objectLiteral => objectLiteral loc ps
  | .emptyStatement => statement (.emptyStatement loc)
  | .methodDefinition => methodDefinition loc ps
  | .classField => classField loc ps
  | .classMembers => members (ps.filterMap member?)
  | .classHeritage => classHeritage ps
  | .classTail => classTailOf ps
  | .classExpression => classExpression loc ps
  | .functionExpression => functionExpression loc ps
  | .arrayLiteral => arrayLiteral loc ps
  | .parenthesizedExpression => parenthesizedExpression loc ps
  | .primaryExpression => primaryExpression ps
  | .lhsTail | .newCalleeTail => operandTail ps
  | .newExpression => newExpression loc ps
  | .newCallee | .leftHandSideExpression => operand ps
  | .postfixExpression => postfixExpression ps
  | .awaitExpression => awaitExpression loc ps
  | .prefixExpression => prefixExpression loc ps
  | .binaryExpression => binaryExpression ps
  | .conditionalTail => conditionalTail ps
  | .conditionalExpression => conditionalExpression ps
  | .restElement => restElement loc ps
  | .objectPattern => objectPattern loc ps
  | .arrayPattern => arrayPattern loc ps
  | .bindingTarget => bindingTarget ps
  | .bindingElement => bindingElement ps
  | .patternProperty => patternProperty ps
  | .formalParameters => patterns (ps.filterMap pattern?)
  | .parenthesizedParameters => parenthesizedParameters ps
  | .arrowParameters => arrowParameters ps
  | .arrowFunction => arrowFunction loc ps
  | .yieldExpression => yieldExpression loc ps
  | .assignment => assignment ps
  | .arrowBody => arrowBody ps
  | .argument | .arrayElement => argument ps
  | .argumentList => items (ps.filterMap item?)
  | .expression => sequenceOf ps
  | .variableDeclarator => variableDeclarator ps
  | .variableDeclaration => variableDeclaration loc ps
  | .variableStatement => variableStatement ps
  | .forInit => forInit ps
  | .forTest => forTest ps
  | .forUpdate => forUpdate ps
  | .forDeclaration => forDeclaration loc ps
  | .forBinding => forBinding ps
  | .functionDeclaration => functionDeclaration loc ps
  | .classDeclaration => classDeclaration loc ps
  | .ifStatement => ifStatement loc ps
  | .forAwaitOfStatement => forOfStatement loc true ps
  | .forInStatement => forInStatement loc ps
  | .forOfStatement => forOfStatement loc false ps
  | .forStatement => forStatement loc ps
  | .whileStatement => whileStatement loc ps
  | .doWhileStatement => doWhileStatement loc ps
  | .continueStatement => jump (.continueStatement · loc) ps
  | .breakStatement => jump (.breakStatement · loc) ps
  | .returnStatement => returnStatement loc ps
  | .throwStatement => throwStatement loc ps
  | .tryStatement => tryStatement loc ps
  | .switchStatement => switchStatement loc ps
  | .debuggerStatement => statement (.debuggerStatement loc)
  | .labeledStatement => labeledStatement loc ps
  | .expressionStatement => expressionStatement loc ps
  | .statement => statementOf ps
  | .catchClause => catchClause loc ps
  | .finallyClause => finallyClause ps
  | .statementList => statements (ps.filterMap statement?)
  | .caseTest => caseTest ps
  | .defaultTest => label none
  | .switchCase => switchCase loc ps
  | .switchCases => cases (ps.filterMap case?)
  | .program => programOf ps
  | .endOfInput | .explicitSemicolon | .lineBreakEnd | .braceEnd | .inputEnd | .statementEnd
  | .statementStartGuard => nothing
  | .statementLabel | .postfixMark | .templateSpan | .methodDef | .classMember | .className
  | .functionName | .newArguments | .lhsHead | .unaryExpression | .arrayPatternItem
  | .formalParameter | .yieldArgument | .assignmentExpression | .sameLineExpression
  | .elseClause | .catchParameter | .caseLabel => only ps

/-- The meaning of a match tree, `locate` saying where the start of a match lies. -/
def ofTree (locate : List Char → Position) : Tree → Part
  | .leaf t source n => ofToken (locate source) t (source.take n)
  | .node r source _ ts => ofRule (locate source) r (ofTrees ts)
where
  ofTrees : List Tree → List Part
    | [] => []
    | t :: ts => ofTree locate t :: ofTrees ts

/-- The tree of a program. -/
def program? : Part → Option Node
  | program n => some n
  | _ => none

end Part

end LoopBound.Reading
