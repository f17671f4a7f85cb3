import LoopBound.Text.Position

/-!
# Syntax trees

A program is a tree of nodes. All nodes are of one type, since a tree may be put together by hand or
by a rewriting, and then a node may stand in a place where no program has it; the printer refuses
such trees. The fields of a constructor are in the order of the source text, and the last one says
where the node begins.
-/

namespace LoopBound.Syntax

open LoopBound.Text (Position)

/-- The words that declare variables. -/
inductive VariableKind where
  | var | let | const
  deriving DecidableEq, Repr, Inhabited

/-- The word itself. -/
def VariableKind.word : VariableKind → String
  | .var => "var"
  | .let => "let"
  | .const => "const"

/-- What a literal denotes. -/
inductive LiteralKind where
  | number | string | regex | boolean | null
  deriving DecidableEq, Repr, Inhabited

/-- The name of a literal's kind. -/
def LiteralKind.name : LiteralKind → String
  | .number => "number"
  | .string => "string"
  | .regex => "regex"
  | .boolean => "boolean"
  | .null => "null"

/-- What a member of an object or class is. -/
inductive MemberKind where
  | init | get | set | method | constructor
  deriving DecidableEq, Repr, Inhabited

/-- The name of a member's kind. -/
def MemberKind.name : MemberKind → String
  | .init => "init"
  | .get => "get"
  | .set => "set"
  | .method => "method"
  | .constructor => "constructor"

/-- The number of a loop in the tree that it was read into. Every loop of such a tree has a number
of its own, which it keeps when the tree is changed. -/
abbrev LoopId := Nat

/-- A node of a syntax tree. -/
inductive Node where
  -- statements
  | program (body : List Node) (loc : Position)
  | blockStatement (body : List Node) (loc : Position)
  | emptyStatement (loc : Position)
  | expressionStatement (expression : Node) (loc : Position)
  | variableDeclarator (id : Node) (init : Option Node) (loc : Position)
  | variableDeclaration (kind : VariableKind) (declarations : List Node) (loc : Position)
  | functionDeclaration (id : Node) (params : List Node) (body : Node) (isAsync generator : Bool)
      (loc : Position)
  | classDeclaration (id : Node) (superclass : Option Node) (body : List Node) (loc : Position)
  | ifStatement (test consequent : Node) (alternate : Option Node) (loc : Position)
  | returnStatement (argument : Option Node) (loc : Position)
  | breakStatement (label : Option Node) (loc : Position)
  | continueStatement (label : Option Node) (loc : Position)
  | throwStatement (argument : Node) (loc : Position)
  | catchClause (param : Option Node) (body : Node) (loc : Position)
  | tryStatement (block : Node) (handler finalizer : Option Node) (loc : Position)
  | switchCase (test : Option Node) (consequent : List Node) (loc : Position)
  | switchStatement (discriminant : Node) (cases : List Node) (loc : Position)
  | labeledStatement (label body : Node) (loc : Position)
  | debuggerStatement (loc : Position)
  -- loops
  | forStatement (loop : LoopId) (init test update : Option Node) (body : Node) (loc : Position)
  | forInStatement (loop : LoopId) (left right body : Node) (loc : Position)
  | forOfStatement (loop : LoopId) (left right body : Node) (isAwait : Bool) (loc : Position)
  | whileStatement (loop : LoopId) (test body : Node) (loc : Position)
  | doWhileStatement (loop : LoopId) (body test : Node) (loc : Position)
  -- operands
  | identifier (name : String) (loc : Position)
  | literal (raw : String) (kind : LiteralKind) (loc : Position)
  | templateLiteral (quasis : List String) (expressions : List Node) (loc : Position)
  | taggedTemplateExpression (tag quasi : Node) (loc : Position)
  | thisExpression (loc : Position)
  | super (loc : Position)
  | arrayExpression (elements : List (Option Node)) (loc : Position)
  | property (key : Node) (value : Option Node) (kind : MemberKind)
      (computed shorthand method : Bool) (loc : Position)
  | objectExpression (properties : List Node) (loc : Position)
  | spreadElement (argument : Node) (loc : Position)
  -- binding patterns
  | restElement (argument : Node) (loc : Position)
  | assignmentPattern (left right : Node) (loc : Position)
  | arrayPattern (elements : List (Option Node)) (loc : Position)
  | objectPattern (properties : List Node) (loc : Position)
  -- functions and classes
  | functionExpression (id : Option Node) (params : List Node) (body : Node)
      (isAsync generator : Bool) (loc : Position)
  | arrowFunctionExpression (params : List Node) (body : Node) (isAsync : Bool) (loc : Position)
  | methodDefinition (key value : Node) (kind : MemberKind) (static computed : Bool)
      (loc : Position)
  | propertyDefinition (key : Node) (value : Option Node) (static computed : Bool) (loc : Position)
  | classExpression (id superclass : Option Node) (body : List Node) (loc : Position)
  -- operators
  | unaryExpression (operator : String) (argument : Node) (loc : Position)
  | updateExpression (operator : String) (argument : Node) (before : Bool) (loc : Position)
  | awaitExpression (argument : Node) (loc : Position)
  | yieldExpression (argument : Option Node) (delegate : Bool) (loc : Position)
  | binaryExpression (operator : String) (left right : Node) (loc : Position)
  | conditionalExpression (test consequent alternate : Node) (loc : Position)
  | assignmentExpression (operator : String) (left right : Node) (loc : Position)
  | sequenceExpression (expressions : List Node) (loc : Position)
  -- accesses and calls
  | memberExpression (object property : Node) (computed optional : Bool) (loc : Position)
  | callExpression (callee : Node) (arguments : List Node) (optional : Bool) (loc : Position)
  | newExpression (callee : Node) (hasArguments : Bool) (arguments : List Node) (loc : Position)
  | parenthesizedExpression (expression : Node) (loc : Position)
  deriving Inhabited, Repr

namespace Node

/-- Where the node begins. -/
def loc : Node → Position
  | program _ p | blockStatement _ p | emptyStatement p | expressionStatement _ p
  | variableDeclarator _ _ p | variableDeclaration _ _ p | functionDeclaration _ _ _ _ _ p
  | classDeclaration _ _ _ p | ifStatement _ _ _ p | returnStatement _ p | breakStatement _ p
  | continueStatement _ p | throwStatement _ p | catchClause _ _ p | tryStatement _ _ _ p
  | switchCase _ _ p | switchStatement _ _ p | labeledStatement _ _ p | debuggerStatement p
  | forStatement _ _ _ _ _ p | forInStatement _ _ _ _ p | forOfStatement _ _ _ _ _ p
  | whileStatement _ _ _ p | doWhileStatement _ _ _ p | identifier _ p | literal _ _ p
  | templateLiteral _ _ p | taggedTemplateExpression _ _ p | thisExpression p | super p
  | arrayExpression _ p | property _ _ _ _ _ _ p | objectExpression _ p | spreadElement _ p
  | restElement _ p | assignmentPattern _ _ p | arrayPattern _ p | objectPattern _ p
  | functionExpression _ _ _ _ _ p | arrowFunctionExpression _ _ _ p
  | methodDefinition _ _ _ _ _ p | propertyDefinition _ _ _ _ p | classExpression _ _ _ p
  | unaryExpression _ _ p | updateExpression _ _ _ p | awaitExpression _ p | yieldExpression _ _ p
  | binaryExpression _ _ _ p | conditionalExpression _ _ _ p | assignmentExpression _ _ _ p
  | sequenceExpression _ p | memberExpression _ _ _ _ p | callExpression _ _ _ p
  | newExpression _ _ _ p | parenthesizedExpression _ p => p

/-- The name of the node's type. -/
def typeName : Node → String
  | program .. => "Program"
  | blockStatement .. => "BlockStatement"
  | emptyStatement .. => "EmptyStatement"
  | expressionStatement .. => "ExpressionStatement"
  | variableDeclarator .. => "VariableDeclarator"
  | variableDeclaration .. => "VariableDeclaration"
  | functionDeclaration .. => "FunctionDeclaration"
  | classDeclaration .. => "ClassDeclaration"
  | ifStatement .. => "IfStatement"
  | returnStatement .. => "ReturnStatement"
  | breakStatement .. => "BreakStatement"
  | continueStatement .. => "ContinueStatement"
  | throwStatement .. => "ThrowStatement"
  | catchClause .. => "CatchClause"
  | tryStatement .. => "TryStatement"
  | switchCase .. => "SwitchCase"
  | switchStatement .. => "SwitchStatement"
  | labeledStatement .. => "LabeledStatement"
  | debuggerStatement .. => "DebuggerStatement"
  | forStatement .. => "ForStatement"
  | forInStatement .. => "ForInStatement"
  | forOfStatement .. => "ForOfStatement"
  | whileStatement .. => "WhileStatement"
  | doWhileStatement .. => "DoWhileStatement"
  | identifier .. => "Identifier"
  | literal .. => "Literal"
  | templateLiteral .. => "TemplateLiteral"
  | taggedTemplateExpression .. => "TaggedTemplateExpression"
  | thisExpression .. => "ThisExpression"
  | super .. => "Super"
  | arrayExpression .. => "ArrayExpression"
  | property .. => "Property"
  | objectExpression .. => "ObjectExpression"
  | spreadElement .. => "SpreadElement"
  | restElement .. => "RestElement"
  | assignmentPattern .. => "AssignmentPattern"
  | arrayPattern .. => "ArrayPattern"
  | objectPattern .. => "ObjectPattern"
  | functionExpression .. => "FunctionExpression"
  | arrowFunctionExpression .. => "ArrowFunctionExpression"
  | methodDefinition .. => "MethodDefinition"
  | propertyDefinition .. => "PropertyDefinition"
  | classExpression .. => "ClassExpression"
  | unaryExpression .. => "UnaryExpression"
  | updateExpression .. => "UpdateExpression"
  | awaitExpression .. => "AwaitExpression"
  | yieldExpression .. => "YieldExpression"
  | binaryExpression .. => "BinaryExpression"
  | conditionalExpression .. => "ConditionalExpression"
  | assignmentExpression .. => "AssignmentExpression"
  | sequenceExpression .. => "SequenceExpression"
  | memberExpression .. => "MemberExpression"
  | callExpression .. => "CallExpression"
  | newExpression .. => "NewExpression"
  | parenthesizedExpression .. => "ParenthesizedExpression"

end Node

end LoopBound.Syntax
