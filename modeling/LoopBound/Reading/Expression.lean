import LoopBound.Reading.Chain
import LoopBound.Reading.Part

/-!
# Parts: expressions and patterns

What operators make of operands, and the patterns that bind names. An expression that continues
another one begins where that one does.
-/

namespace LoopBound.Reading

open LoopBound.Syntax LoopBound.Grammar
open LoopBound.Text (Position)

namespace Part

/-- The literal of `true`, `false` or `null`. -/
def wordLiteral (text : String) (loc : Position) : Node :=
  .literal text (if text == "null" then .null else .boolean) loc

/-- A primary expression. -/
def primaryExpression : List Part → Part
  | [token .thisWord _ loc] => expression (.thisExpression loc)
  | [token .superWord _ loc] => expression (.super loc)
  | [token .wordLiteral s loc] => expression (wordLiteral s loc)
  | [token .number s loc] => expression (.literal s .number loc)
  | [token .string s loc] => expression (.literal s .string loc)
  | [token .regex s loc] => expression (.literal s .regex loc)
  | [template n] => expression n
  | [expression n] => expression n
  | [name s loc] => expression (ident s loc)
  | _ => nothing

/-- An array. -/
def arrayLiteral (loc : Position) (ps : List Part) : Part :=
  expression (.arrayExpression (entries item? ps) loc)

/-- An expression in parentheses. -/
def parenthesizedExpression (loc : Position) : List Part → Part
  | [expression n] => expression (.parenthesizedExpression n loc)
  | _ => nothing

/-- An operand that may be counted up or down afterwards. -/
def postfixExpression : List Part → Part
  | [expression n] => expression n
  | [expression n, token .postfixOperator op _] => expression (.updateExpression op n false n.loc)
  | _ => nothing

/-- An operand that is waited for. -/
def awaitExpression (loc : Position) : List Part → Part
  | [expression n] => expression (.awaitExpression n loc)
  | _ => nothing

/-- An operator in front of an operand. -/
def prefixExpression (loc : Position) : List Part → Part
  | [token .prefixOperator op _, expression n] =>
    if op == "++" || op == "--" then expression (.updateExpression op n true loc)
    else expression (.unaryExpression op n loc)
  | _ => nothing

/-- The operators and right operands of a chain. -/
def chainRest : List Part → Option (List (BinaryOperator × Node))
  | [] => some []
  | token .binaryOperator s _ :: expression n :: ps =>
    match BinaryOperator.ofSpelling? s, chainRest ps with
    | some op, some rest => some ((op, n) :: rest)
    | _, _ => none
  | _ => none

/-- A chain of binary operators. -/
def binaryExpression : List Part → Part
  | expression n :: ps =>
    match chainRest ps with
    | some rest => expression (foldChain n rest)
    | none => nothing
  | _ => nothing

/-- The branches of a conditional expression. -/
def conditionalTail : List Part → Part
  | [expression c, expression a] => branches c a
  | _ => nothing

/-- A conditional expression. -/
def conditionalExpression : List Part → Part
  | [expression n] => expression n
  | [expression n, branches c a] => expression (.conditionalExpression n c a n.loc)
  | _ => nothing

/-- The parameters of an arrow function. -/
def arrowParameters : List Part → Part
  | [name s loc] => patterns [ident s loc]
  | [patterns ns] => patterns ns
  | _ => nothing

/-- Parameters in parentheses. -/
def parenthesizedParameters : List Part → Part
  | [] => patterns []
  | [patterns ns] => patterns ns
  | _ => nothing

/-- The body of an arrow function. -/
def arrowBody : List Part → Part
  | [block n] => body n
  | [expression n] => body n
  | _ => nothing

/-- An arrow function. -/
def arrowFunction (loc : Position) (ps : List Part) : Part :=
  let (isAsync, ps) := splitAsync ps
  match ps with
  | [patterns params, body b] => expression (.arrowFunctionExpression params b isAsync loc)
  | _ => nothing

/-- What a generator hands out. -/
def yieldExpression (loc : Position) (ps : List Part) : Part :=
  let (delegate, ps) := splitStar ps
  match ps with
  | [] => expression (.yieldExpression none delegate loc)
  | [expression n] => expression (.yieldExpression (some n) delegate loc)
  | _ => nothing

/-- An assignment. -/
def assignment : List Part → Part
  | [expression l, token .assignmentOperator op _, expression r] =>
    expression (.assignmentExpression op l r l.loc)
  | _ => nothing

/-- One expression, or a sequence of them. -/
def sequenceOf (ps : List Part) : Part :=
  match ps.filterMap expression? with
  | [] => nothing
  | [n] => expression n
  | n :: ns => expression (.sequenceExpression (n :: ns) n.loc)

/-! ## Binding patterns -/

/-- The rest of a list. -/
def restElement (loc : Position) : List Part → Part
  | [pattern n] => pattern (.restElement n loc)
  | _ => nothing

/-- A pattern of properties. -/
def objectPattern (loc : Position) : List Part → Part
  | [] => pattern (.objectPattern [] loc)
  | [properties ns] => pattern (.objectPattern ns loc)
  | _ => nothing

/-- A pattern of entries. -/
def arrayPattern (loc : Position) (ps : List Part) : Part :=
  pattern (.arrayPattern (entries pattern? ps) loc)

/-- What is bound. -/
def bindingTarget : List Part → Part
  | [pattern n] => pattern n
  | [name s loc] => pattern (ident s loc)
  | _ => nothing

/-- What is bound, with a default. -/
def bindingElement : List Part → Part
  | [pattern n] => pattern n
  | [pattern n, expression d] => pattern (.assignmentPattern n d n.loc)
  | _ => nothing

/-- A property of a pattern. Without a key the name that is bound is the key. -/
def patternProperty : List Part → Part
  | [property n] => property n
  | [pattern (.identifier s loc)] =>
    property (.property (ident s loc) (some (ident s loc)) .init false true false loc)
  | [pattern (.assignmentPattern (.identifier s p) d loc)] =>
    property (.property (ident s p) (some (.assignmentPattern (.identifier s p) d loc)) .init
      false true false p)
  | [pattern n] => property n
  | _ => nothing

end Part

end LoopBound.Reading
