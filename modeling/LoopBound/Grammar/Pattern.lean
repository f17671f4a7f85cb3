import LoopBound.Grammar.Token

/-!
# Rules and patterns

The vocabulary of the grammar. A pattern says how a piece of text is matched; it refers to other
patterns by rule, and rules are a plain enumeration.

The order of the rules is a rank: a rule refers, where it has not yet taken a character, only to
rules declared before it. Matching relies on this order, which rules out left recursion.
-/

namespace LoopBound.Grammar

/-- The rules, each after the rules that its match may begin with. -/
inductive Rule where
  -- names
  | identifier | propertyIdentifier
  -- ends of statements
  | endOfInput | explicitSemicolon | lineBreakEnd | braceEnd | inputEnd | statementEnd
  -- marks
  | declarationKind | asyncPrefix | generatorStar | staticPrefix | methodStar | accessorKind
  | yieldDelegate | statementLabel | functionHead | postfixMark | comma
  -- templates
  | templateSubstitution | templateSpan | templateLiteral
  -- accesses and calls
  | dotMember | computedMember | arguments | optionalChain
  -- functions
  | functionBody | functionRest
  -- members of objects
  | computedPropertyName | propertyName | accessorMethod | asyncMethod | generatorMethod
  | plainMethod | methodDef | spreadElement | keyedProperty | shorthandProperty | propertyDefinition
  | propertyDefinitions | objectLiteral
  -- classes
  | emptyStatement | methodDefinition | classField | classMember | classMembers | classHeritage
  | classTail | className | classExpression
  -- primary expressions
  | functionName | functionExpression | arrayLiteral | parenthesizedExpression | primaryExpression
  -- accesses to primary expressions
  | newArguments | newCalleeTail | newExpression | newCallee | lhsHead | lhsTail
  | leftHandSideExpression
  -- operators
  | postfixExpression | awaitExpression | prefixExpression | unaryExpression | binaryExpression
  | conditionalTail | conditionalExpression
  -- patterns and parameters
  | restElement | objectPattern | arrayPattern | bindingTarget | bindingElement
  | keyedPatternProperty | patternProperty | patternProperties | arrayPatternItem
  | formalParameter | formalParameters
  -- functions as expressions, assignments
  | parenthesizedParameters | arrowParameters | arrowFunction | yieldExpression | assignment
  | assignmentExpression | arrowBody | yieldArgument | argument | argumentList | arrayElement
  | expression | sameLineExpression
  -- declarations
  | variableDeclarator | variableDeclaration | variableStatement
  | forInit | forTest | forUpdate | forDeclaration | forBinding
  -- statements
  | block | functionDeclaration | classDeclaration | ifStatement
  | forAwaitOfStatement | forInStatement | forOfStatement | forStatement
  | whileStatement | doWhileStatement | continueStatement | breakStatement | returnStatement
  | throwStatement | tryStatement | switchStatement | debuggerStatement | labeledStatement
  | statementStartGuard | expressionStatement | statement
  -- parts of statements
  | elseClause | catchParameter | catchClause | finallyClause
  | statementList | caseTest | defaultTest | caseLabel | switchCase | switchCases
  | program
  deriving DecidableEq, Repr

/-- How a piece of text is matched. -/
inductive Pattern where
  /-- This text. -/
  | text (word : List Char)
  /-- A token, which the match tree keeps. -/
  | token (t : Token)
  /-- Another rule. -/
  | rule (r : Rule)
  /-- The same match, of which the match tree keeps nothing. -/
  | drop (p : Pattern)
  /-- Nothing. -/
  | empty
  /-- One after the other. -/
  | both (p q : Pattern)
  /-- The first that matches. -/
  | either (p q : Pattern)
  /-- The pattern if it matches, else nothing. -/
  | optional (p : Pattern)
  /-- As often as it matches. -/
  | many (p : Pattern)
  /-- Nothing, where the pattern does not match. -/
  | absent (p : Pattern)
  deriving DecidableEq, Repr

namespace Pattern

/-- The patterns one after another. -/
def sequence : List Pattern → Pattern
  | [] => empty
  | [p] => p
  | p :: ps => both p (sequence ps)

/-- The first of the patterns that matches. -/
def firstOf (p : Pattern) : List Pattern → Pattern
  | [] => p
  | q :: qs => either p (firstOf q qs)

/-- A word or mark of the language. -/
def word (s : String) : Pattern :=
  text s.toList

/-- A keyword. -/
def keyword (k : Keyword) : Pattern :=
  drop (token (.keyword k))

/-- Any layout. -/
def layout : Pattern :=
  drop (token .layout)

/-- Layout within the line. -/
def sameLine : Pattern :=
  drop (token .sameLine)

/-- An equals sign that does not begin an equality, and the value behind it. -/
def initializer : Pattern :=
  sequence [layout, word "=", absent (word "="), layout, rule .assignmentExpression]

/-- One or more, separated by commas. -/
def commaSeparated (p : Pattern) : Pattern :=
  sequence [p, many (sequence [layout, word ",", layout, p])]

/-- One or more, separated by commas; one more comma may follow. -/
def commaTerminated (p : Pattern) : Pattern :=
  sequence [commaSeparated p, optional (sequence [layout, word ","])]

/-- Slots in brackets, each filled or not, separated by commas that the match tree keeps. -/
def slots (p : Pattern) : Pattern :=
  sequence [word "[", layout, optional p,
    many (sequence [layout, rule .comma, layout, optional p]), layout, word "]"]

/-- Something in parentheses. -/
def parenthesized (p : Pattern) : Pattern :=
  sequence [word "(", layout, p, layout, word ")"]

/-- Statements in braces. -/
def statements : Pattern :=
  sequence [word "\x7b", rule .statementList, layout, word "\x7d"]

/-- Something in braces. -/
def braced (p : Pattern) : Pattern :=
  sequence [word "\x7b", layout, p, layout, word "\x7d"]

end Pattern

end LoopBound.Grammar
