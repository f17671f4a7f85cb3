import LoopBound.Syntax.Loop

/-!
# Nodes as records

A node as a type name with named fields, the form in which trees are exchanged with other tools.
`ofRecord?` reads it back; fields that have a usual value may be left out, and loops read this way
have no numbers of their own.
-/

namespace LoopBound.Syntax

open LoopBound.Text (Position)

/-- The value of a field. -/
inductive FieldValue where
  | absent
  | node (n : Node)
  | nodes (ns : List (Option Node))
  | text (s : String)
  | texts (ss : List String)
  | flag (b : Bool)

/-- Named fields. -/
abbrev Record := List (String × FieldValue)

namespace FieldValue

/-- A node that may be missing. -/
def maybe : Option Node → FieldValue
  | some n => node n
  | none => absent

/-- A list without holes. -/
def list (ns : List Node) : FieldValue :=
  nodes (ns.map some)

end FieldValue

namespace Node

open FieldValue

/-- The named fields of a node apart from its position. -/
def record : Node → Record
  | program b _ => [("body", list b)]
  | blockStatement b _ => [("body", list b)]
  | emptyStatement _ => []
  | expressionStatement e _ => [("expression", node e)]
  | variableDeclarator i v _ => [("id", node i), ("init", maybe v)]
  | variableDeclaration k ds _ => [("kind", text k.word), ("declarations", list ds)]
  | functionDeclaration i ps b a g _ =>
    [("id", node i), ("params", list ps), ("body", node b), ("is_async", flag a),
      ("generator", flag g)]
  | classDeclaration i s b _ => [("id", node i), ("superclass", maybe s), ("body", list b)]
  | ifStatement t c a _ => [("test", node t), ("consequent", node c), ("alternate", maybe a)]
  | returnStatement a _ => [("argument", maybe a)]
  | breakStatement l _ => [("label", maybe l)]
  | continueStatement l _ => [("label", maybe l)]
  | throwStatement a _ => [("argument", node a)]
  | catchClause p b _ => [("param", maybe p), ("body", node b)]
  | tryStatement b h f _ => [("block", node b), ("handler", maybe h), ("finalizer", maybe f)]
  | switchCase t c _ => [("test", maybe t), ("consequent", list c)]
  | switchStatement d cs _ => [("discriminant", node d), ("cases", list cs)]
  | labeledStatement l b _ => [("label", node l), ("body", node b)]
  | debuggerStatement _ => []
  | forStatement _ i t u b _ =>
    [("init", maybe i), ("test", maybe t), ("update", maybe u), ("body", node b)]
  | forInStatement _ l r b _ => [("left", node l), ("right", node r), ("body", node b)]
  | forOfStatement _ l r b a _ =>
    [("left", node l), ("right", node r), ("body", node b), ("is_await", flag a)]
  | whileStatement _ t b _ => [("test", node t), ("body", node b)]
  | doWhileStatement _ b t _ => [("body", node b), ("test", node t)]
  | identifier s _ => [("name", text s)]
  | literal s k _ => [("raw", text s), ("kind", text k.name)]
  | templateLiteral q es _ => [("quasis", texts q), ("expressions", list es)]
  | taggedTemplateExpression t q _ => [("tag", node t), ("quasi", node q)]
  | thisExpression _ => []
  | super _ => []
  | arrayExpression es _ => [("elements", nodes es)]
  | property k v kind c s m _ =>
    [("key", node k), ("value", maybe v), ("kind", text kind.name), ("computed", flag c),
      ("shorthand", flag s), ("method", flag m)]
  | objectExpression ps _ => [("properties", list ps)]
  | spreadElement a _ => [("argument", node a)]
  | restElement a _ => [("argument", node a)]
  | assignmentPattern l r _ => [("left", node l), ("right", node r)]
  | arrayPattern es _ => [("elements", nodes es)]
  | objectPattern ps _ => [("properties", list ps)]
  | functionExpression i ps b a g _ =>
    [("id", maybe i), ("params", list ps), ("body", node b), ("is_async", flag a),
      ("generator", flag g)]
  | arrowFunctionExpression ps b a _ =>
    [("params", list ps), ("body", node b), ("is_async", flag a)]
  | methodDefinition k v kind s c _ =>
    [("key", node k), ("value", node v), ("kind", text kind.name), ("static", flag s),
      ("computed", flag c)]
  | propertyDefinition k v s c _ =>
    [("key", node k), ("value", maybe v), ("static", flag s), ("computed", flag c)]
  | classExpression i s b _ => [("id", maybe i), ("superclass", maybe s), ("body", list b)]
  | unaryExpression o a _ => [("operator", text o), ("argument", node a)]
  | updateExpression o a b _ => [("operator", text o), ("argument", node a), ("prefix", flag b)]
  | awaitExpression a _ => [("argument", node a)]
  | yieldExpression a d _ => [("argument", maybe a), ("delegate", flag d)]
  | binaryExpression o l r _ => [("operator", text o), ("left", node l), ("right", node r)]
  | conditionalExpression t c a _ =>
    [("test", node t), ("consequent", node c), ("alternate", node a)]
  | assignmentExpression o l r _ => [("operator", text o), ("left", node l), ("right", node r)]
  | sequenceExpression es _ => [("expressions", list es)]
  | memberExpression o p c opt _ =>
    [("object", node o), ("property", node p), ("computed", flag c), ("optional", flag opt)]
  | callExpression c as opt _ =>
    [("callee", node c), ("arguments", list as), ("optional", flag opt)]
  | newExpression c h as _ => [("callee", node c), ("arguments", if h then list as else absent)]
  | parenthesizedExpression e _ => [("expression", node e)]

end Node

/-! ## Reading records -/

namespace Record

/-- A node that must be there. -/
def one? (r : Record) (name : String) : Option Node :=
  match r.lookup name with
  | some (.node n) => some n
  | _ => none

/-- A node that may be missing. -/
def maybe (r : Record) (name : String) : Option Node :=
  r.one? name

/-- A list with holes; no list if there is none. -/
def sparse (r : Record) (name : String) : List (Option Node) :=
  match r.lookup name with
  | some (.nodes ns) => ns
  | _ => []

/-- A list. -/
def many (r : Record) (name : String) : List Node :=
  (r.sparse name).filterMap id

/-- A text. -/
def text (r : Record) (name : String) : String :=
  match r.lookup name with
  | some (.text s) => s
  | _ => ""

/-- A list of texts. -/
def texts (r : Record) (name : String) : List String :=
  match r.lookup name with
  | some (.texts ss) => ss
  | _ => []

/-- A flag, which is usually not set. -/
def flag (r : Record) (name : String) : Bool :=
  match r.lookup name with
  | some (.flag b) => b
  | _ => false

/-- The kind of a literal: a number if none is named, a string if the name is none of a kind. -/
def literalKind (r : Record) : LiteralKind :=
  if (r.lookup "kind").isNone then .number
  else ([.number, .string, .regex, .boolean, .null].find? fun (k : LiteralKind) =>
    k.name == r.text "kind").getD .string

/-- The kind of a member. -/
def memberKind (r : Record) (usual : MemberKind) : MemberKind :=
  ([.init, .get, .set, .method, .constructor].find? fun (k : MemberKind) =>
    k.name == r.text "kind").getD usual

/-- The word of a declaration. -/
def variableKind (r : Record) : VariableKind :=
  ([.var, .let, .const].find? fun (k : VariableKind) => k.word == r.text "kind").getD .var

end Record

namespace Node

/-- The statement of a type with these fields. -/
def statementOfRecord? (type : String) (r : Record) (p : Position) : Option Node :=
  match type with
  | "Program" => some (program (r.many "body") p)
  | "BlockStatement" => some (blockStatement (r.many "body") p)
  | "EmptyStatement" => some (emptyStatement p)
  | "ExpressionStatement" => return expressionStatement (← r.one? "expression") p
  | "VariableDeclarator" => return variableDeclarator (← r.one? "id") (r.maybe "init") p
  | "VariableDeclaration" => some (variableDeclaration r.variableKind (r.many "declarations") p)
  | "FunctionDeclaration" =>
    return functionDeclaration (← r.one? "id") (r.many "params") (← r.one? "body")
      (r.flag "is_async") (r.flag "generator") p
  | "ClassDeclaration" =>
    return classDeclaration (← r.one? "id") (r.maybe "superclass") (r.many "body") p
  | "IfStatement" =>
    return ifStatement (← r.one? "test") (← r.one? "consequent") (r.maybe "alternate") p
  | "ReturnStatement" => some (returnStatement (r.maybe "argument") p)
  | "BreakStatement" => some (breakStatement (r.maybe "label") p)
  | "ContinueStatement" => some (continueStatement (r.maybe "label") p)
  | "ThrowStatement" => return throwStatement (← r.one? "argument") p
  | "CatchClause" => return catchClause (r.maybe "param") (← r.one? "body") p
  | "TryStatement" =>
    return tryStatement (← r.one? "block") (r.maybe "handler") (r.maybe "finalizer") p
  | "SwitchCase" => some (switchCase (r.maybe "test") (r.many "consequent") p)
  | "SwitchStatement" => return switchStatement (← r.one? "discriminant") (r.many "cases") p
  | "LabeledStatement" => return labeledStatement (← r.one? "label") (← r.one? "body") p
  | "DebuggerStatement" => some (debuggerStatement p)
  | "ForStatement" =>
    return forStatement 0 (r.maybe "init") (r.maybe "test") (r.maybe "update") (← r.one? "body") p
  | "ForInStatement" =>
    return forInStatement 0 (← r.one? "left") (← r.one? "right") (← r.one? "body") p
  | "ForOfStatement" =>
    return forOfStatement 0 (← r.one? "left") (← r.one? "right") (← r.one? "body")
      (r.flag "is_await") p
  | "WhileStatement" => return whileStatement 0 (← r.one? "test") (← r.one? "body") p
  | "DoWhileStatement" => return doWhileStatement 0 (← r.one? "body") (← r.one? "test") p
  | _ => none

/-- The expression or pattern of a type with these fields. -/
def expressionOfRecord? (type : String) (r : Record) (p : Position) : Option Node :=
  match type with
  | "Identifier" => some (identifier (r.text "name") p)
  | "Literal" => some (literal (r.text "raw") r.literalKind p)
  | "TemplateLiteral" => some (templateLiteral (r.texts "quasis") (r.many "expressions") p)
  | "TaggedTemplateExpression" =>
    return taggedTemplateExpression (← r.one? "tag") (← r.one? "quasi") p
  | "ThisExpression" => some (thisExpression p)
  | "Super" => some (super p)
  | "ArrayExpression" => some (arrayExpression (r.sparse "elements") p)
  | "Property" =>
    return property (← r.one? "key") (r.maybe "value") (r.memberKind .init) (r.flag "computed")
      (r.flag "shorthand") (r.flag "method") p
  | "ObjectExpression" => some (objectExpression (r.many "properties") p)
  | "SpreadElement" => return spreadElement (← r.one? "argument") p
  | "RestElement" => return restElement (← r.one? "argument") p
  | "AssignmentPattern" => return assignmentPattern (← r.one? "left") (← r.one? "right") p
  | "ArrayPattern" => some (arrayPattern (r.sparse "elements") p)
  | "ObjectPattern" => some (objectPattern (r.many "properties") p)
  | "FunctionExpression" =>
    return functionExpression (r.maybe "id") (r.many "params") (← r.one? "body")
      (r.flag "is_async") (r.flag "generator") p
  | "ArrowFunctionExpression" =>
    return arrowFunctionExpression (r.many "params") (← r.one? "body") (r.flag "is_async") p
  | "MethodDefinition" =>
    return methodDefinition (← r.one? "key") (← r.one? "value") (r.memberKind .method)
      (r.flag "static") (r.flag "computed") p
  | "PropertyDefinition" =>
    return propertyDefinition (← r.one? "key") (r.maybe "value") (r.flag "static")
      (r.flag "computed") p
  | "ClassExpression" =>
    some (classExpression (r.maybe "id") (r.maybe "superclass") (r.many "body") p)
  | "UnaryExpression" => return unaryExpression (r.text "operator") (← r.one? "argument") p
  | "UpdateExpression" =>
    return updateExpression (r.text "operator") (← r.one? "argument") (r.flag "prefix") p
  | "AwaitExpression" => return awaitExpression (← r.one? "argument") p
  | "YieldExpression" => some (yieldExpression (r.maybe "argument") (r.flag "delegate") p)
  | "BinaryExpression" =>
    return binaryExpression (r.text "operator") (← r.one? "left") (← r.one? "right") p
  | "ConditionalExpression" =>
    return conditionalExpression (← r.one? "test") (← r.one? "consequent") (← r.one? "alternate") p
  | "AssignmentExpression" =>
    return assignmentExpression (r.text "operator") (← r.one? "left") (← r.one? "right") p
  | "SequenceExpression" => some (sequenceExpression (r.many "expressions") p)
  | "MemberExpression" =>
    return memberExpression (← r.one? "object") (← r.one? "property") (r.flag "computed")
      (r.flag "optional") p
  | "CallExpression" =>
    return callExpression (← r.one? "callee") (r.many "arguments") (r.flag "optional") p
  | "NewExpression" =>
    return newExpression (← r.one? "callee")
      (match r.lookup "arguments" with | some (.nodes _) => true | _ => false)
      (r.many "arguments") p
  | "ParenthesizedExpression" => return parenthesizedExpression (← r.one? "expression") p
  | _ => none

/-- The node of a type with these fields; `none` if there is no such type or a field is missing. -/
def ofRecord? (type : String) (r : Record) (p : Position) : Option Node :=
  match statementOfRecord? type r p with
  | some n => some n
  | none => expressionOfRecord? type r p

end Node

end LoopBound.Syntax
