import LoopBound.Layout.Emitter
import LoopBound.Layout.Printer

/-!
# Printing into a buffer

The printer once more, this time with every space where it ends up: statements write lines, already
indented, into a buffer, and expressions are texts whose inner lines are indented for the place
where they stand. Bodies inside expressions are written by a printer of their own, some levels in;
the rows of an object are padded by hand; whether an object fits on a line, and whether a text would
be read as something else, is decided on the padded text.

It is the plain way to print, and the layout comes to the same (`write_eq_generate`).
-/

namespace LoopBound.Layout

open LoopBound.Syntax

/-- What a visit of a node comes to: lines in the buffer, or a text. A declaration is either. -/
inductive Visited where
  | wrote (e : Emitter)
  | declaration (s : String)
  | text (s : String)

/-- A node among statements. -/
def writeStatement (n : Node) (e : Emitter) (x : Printing Visited) : Printing Emitter := do
  match ← x with
  | .wrote e' => return e'
  | .declaration s => return e.emit (s ++ ";")
  | .text _ => .error (.ofNode .notStatement n)

/-- A node in an expression. -/
def writeExpression (n : Node) (x : Printing Visited) : Printing String := do
  match ← x with
  | .declaration s => return s
  | .text s => return s
  | .wrote _ => .error (.ofNode .notExpression n)

namespace Emitter

/-- A line of its own, or text behind the last line. -/
def put (e : Emitter) (joined : Bool) (text : String) : Emitter :=
  if joined then e.extendLast (" " ++ text) else e.emit text

/-- The level of text that is written inside this many objects. -/
def levelAt (e : Emitter) (depth : Nat) : Int :=
  e.level + depth

/-- A buffer for the body of a function or class within such text. -/
def inner (e : Emitter) (depth : Nat) : Emitter :=
  { step := e.step, level := e.levelAt depth + 1 }

/-- What another buffer holds, in braces. -/
def braced (e : Emitter) (depth : Nat) (body : Emitter) : String :=
  "\x7b\n" ++ body.value ++ "\n" ++ e.padAt (e.levelAt depth) ++ "\x7d"

end Emitter

/-- A header with its body, which is a block or another statement. -/
def writeBody (e : Emitter) (joined : Bool) (header : String) (body : Node)
    (visit : Emitter → Printing Visited) (inside : Emitter → Printing Emitter) :
    Printing Emitter :=
  match body with
  | .blockStatement [] _ => return e.put joined (header ++ " \x7b\x7d")
  | .blockStatement _ _ => do
    return (← inside (e.put joined (header ++ " \x7b")).indent).dedent.emit "\x7d"
  | _ => do
    let e := (e.put joined header).indent
    return (← writeStatement body e (visit e)).dedent

/-- Braces, with what another buffer holds between them. -/
def writeBraced (e : Emitter) (depth : Nat) (isEmpty : Bool) (inside : Printing Emitter) :
    Printing String := do
  if isEmpty then return "\x7b\x7d" else return e.braced depth (← inside)

/-- An object: on one line if it fits, else one property on a line. -/
def writeObject (e : Emitter) (depth : Nat) (parts : List String) : String :=
  let inline := "\x7b " ++ ", ".intercalate parts ++ " \x7d"
  if parts.isEmpty then "\x7b\x7d"
  else if inline.length ≤ inlineWidth && !inline.toList.contains '\n' then inline
  else
    "\x7b\n" ++ ",\n".intercalate (parts.map (e.padAt (e.levelAt depth + 1) ++ ·)) ++
      "\n" ++ e.padAt (e.levelAt depth) ++ "\x7d"

/-- A key, in brackets if it is computed. -/
def writeKey (computed : Bool) (key : String) : String :=
  if computed then "[" ++ key ++ "]" else key

/-- Entries of an array; a hole at the end needs a comma of its own. -/
def writeElements (parts : List String) (endsInHole : Bool) : String :=
  ", ".intercalate parts ++ (if endsInHole then "," else "")

/-- A node that is a pattern with a default. -/
def isDefault : Option Node → Bool
  | some (.assignmentPattern ..) => true
  | _ => false

mutual

/-- Visits a node; an expression may stand inside so many objects. -/
def visit : Node → Emitter → Nat → Printing Visited
  | .program body _, e, _ => do return .wrote (← visitStatements body e)
  | .blockStatement [] _, e, _ => return .wrote (e.emit "\x7b\x7d")
  | .blockStatement (n :: ns) _, e, _ => do
    return .wrote ((← visitStatements (n :: ns) (e.emit "\x7b").indent).dedent.emit "\x7d")
  | .emptyStatement _, e, _ => return .wrote (e.emit ";")
  | .expressionStatement x _, e, _ => do
    let s ← writeExpression x (visit x e 0)
    let s := if looksLikeStatement s.toList then "(" ++ s ++ ")" else s
    return .wrote (e.emit (s ++ ";"))
  | .variableDeclaration kind ds _, e, d => do
    return .declaration (kind.word ++ " " ++ ", ".intercalate (← visitDeclarators ds e d))
  | .functionDeclaration id params body isAsync generator _, e, _ => do
    let name ← nameOf id
    let ps ← visitExpressions params e 0
    let header := functionWords isAsync generator ++ " " ++ name ++
      "(" ++ ", ".intercalate ps ++ ")"
    return .wrote (← writeBody e false header body (visit body · 0) (visitInside body))
  | .classDeclaration id superclass ms _, e, _ => do
    let name ← nameOf id
    let heritage ← visitMaybe " extends " superclass e 0
    let header := "class " ++ name ++ heritage
    if ms.isEmpty then return .wrote (e.emit (header ++ " \x7b\x7d"))
    else
      return .wrote ((← visitMembers ms (e.emit (header ++ " \x7b")).indent).dedent.emit "\x7d")
  | .ifStatement t c a _, e, _ => do
    let s ← writeExpression t (visit t e 0)
    let e ← writeBody e false ("if (" ++ s ++ ")") c (visit c · 0) (visitInside c)
    return .wrote (← visitAlternate a (isBlock c) e)
  | .forStatement _ i t u body _, e, _ => do
    let si ← visitMaybe "" i e 0
    let st ← visitMaybe " " t e 0
    let su ← visitMaybe " " u e 0
    let header := "for (" ++ si ++ ";" ++ st ++ ";" ++ su ++ ")"
    return .wrote (← writeBody e false header body (visit body · 0) (visitInside body))
  | .forInStatement _ l r body _, e, _ => do
    let sl ← writeExpression l (visit l e 0)
    let sr ← writeExpression r (visit r e 0)
    let header := "for (" ++ sl ++ " in " ++ sr ++ ")"
    return .wrote (← writeBody e false header body (visit body · 0) (visitInside body))
  | .forOfStatement _ l r body isAwait _, e, _ => do
    let sl ← writeExpression l (visit l e 0)
    let sr ← writeExpression r (visit r e 0)
    let header := (if isAwait then "for await (" else "for (") ++ sl ++ " of " ++ sr ++ ")"
    return .wrote (← writeBody e false header body (visit body · 0) (visitInside body))
  | .whileStatement _ t body _, e, _ => do
    let s ← writeExpression t (visit t e 0)
    let header := "while (" ++ s ++ ")"
    return .wrote (← writeBody e false header body (visit body · 0) (visitInside body))
  | .doWhileStatement _ body t _, e, _ => do
    let e ← writeBody e false "do" body (visit body · 0) (visitInside body)
    let s ← writeExpression t (visit t e 0)
    return .wrote (e.put (isBlock body) ("while (" ++ s ++ ");"))
  | .returnStatement a _, e, _ => do
    return .wrote (e.emit ("return" ++ (← visitMaybe " " a e 0) ++ ";"))
  | .throwStatement a _, e, _ => do
    return .wrote (e.emit ("throw " ++ (← writeExpression a (visit a e 0)) ++ ";"))
  | .breakStatement l _, e, _ => do
    match ← nameOf? l with
    | some s => return .wrote (e.emit ("break " ++ s ++ ";"))
    | none => return .wrote (e.emit "break;")
  | .continueStatement l _, e, _ => do
    match ← nameOf? l with
    | some s => return .wrote (e.emit ("continue " ++ s ++ ";"))
    | none => return .wrote (e.emit "continue;")
  | .debuggerStatement _, e, _ => return .wrote (e.emit "debugger;")
  | .labeledStatement l body _, e, _ => do
    let name ← nameOf l
    let e := e.label (name ++ ": ")
    return .wrote (← writeStatement body e (visit body e 0))
  | .tryStatement b h f _, e, _ => do
    let e ← writeBody e false "try" b (visit b · 0) (visitInside b)
    return .wrote (← visitFinalizer f (← visitHandler h e))
  | .switchStatement x cs _, e, _ => do
    let s ← writeExpression x (visit x e 0)
    let header := "switch (" ++ s ++ ")"
    if cs.isEmpty then return .wrote (e.emit (header ++ " \x7b\x7d"))
    else return .wrote ((← visitCases cs (e.emit (header ++ " \x7b")).indent).dedent.emit "\x7d")
  | .identifier s _, _, _ => return .text s
  | .literal raw _ _, _, _ => return .text raw
  | .templateLiteral [] es p, _, _ => .error (.ofNode .noText (.templateLiteral [] es p))
  | .templateLiteral (q :: qs) es _, e, d => do
    return .text ("\x60" ++ q ++ (← visitTemplate es qs e d) ++ "\x60")
  | .taggedTemplateExpression t q _, e, d => do
    let st ← writeExpression t (visit t e d)
    let sq ← writeExpression q (visit q e d)
    return .text (st ++ sq)
  | .thisExpression _, _, _ => return .text "this"
  | .super _, _, _ => return .text "super"
  | .arrayExpression es _, e, d => do
    return .text ("[" ++ writeElements (← visitElements es e d) (endsInHole es) ++ "]")
  | .arrayPattern es _, e, d => do
    return .text ("[" ++ writeElements (← visitElements es e d) (endsInHole es) ++ "]")
  | .objectExpression ps _, e, d => do
    return .text (writeObject e d (← visitExpressions ps e (d + 1)))
  | .objectPattern ps _, e, d => do
    return .text (writeObject e d (← visitExpressions ps e (d + 1)))
  | .property k v kind computed shorthand method _, e, d => do
    let key := writeKey computed (← writeExpression k (visit k e d))
    if kind == .get || kind == .set || method then
      return .text (← visitObjectMethod kind key v e d)
    else if shorthand then
      if isDefault v then return .text (← visitRequired v e d) else return .text key
    else return .text (key ++ ": " ++ (← visitRequired v e d))
  | .spreadElement a _, e, d => do
    return .text ("..." ++ (← writeExpression a (visit a e d)))
  | .restElement a _, e, d => do
    return .text ("..." ++ (← writeExpression a (visit a e d)))
  | .assignmentPattern l r _, e, d => do
    let sl ← writeExpression l (visit l e d)
    let sr ← writeExpression r (visit r e d)
    return .text (sl ++ " = " ++ sr)
  | .functionExpression id params body isAsync generator _, e, d => do
    let name ← nameOf? id
    let ps ← visitExpressions params e d
    let b ← visitFunctionBody body e d
    let words := functionWords isAsync generator ++ " " ++ name.getD ""
    return .text (words ++ "(" ++ ", ".intercalate ps ++ ") " ++ b)
  | .arrowFunctionExpression params body isAsync _, e, d => do
    let ps ← visitExpressions params e d
    let head := (if isAsync then "async (" else "(") ++ ", ".intercalate ps ++ ") => "
    if isBlock body then return .text (head ++ (← visitFunctionBody body e d))
    else
      let s ← writeExpression body (visit body e d)
      return .text (head ++ (if "\x7b".toList.isPrefixOf s.toList then "(" ++ s ++ ")" else s))
  | .classExpression id superclass ms _, e, d => do
    let name ← nameOf? id
    let heritage ← visitMaybe " extends " superclass e d
    let header := "class" ++ (name.elim "" (" " ++ ·)) ++ heritage
    return .text (header ++ " " ++ (← writeBraced e d ms.isEmpty (visitMembers ms (e.inner d))))
  | .unaryExpression op a _, e, d => do
    let s ← writeExpression a (visit a e d)
    if isWordOperator op || ((op == "+" || op == "-") && op.toList.isPrefixOf s.toList) then
      return .text (op ++ " " ++ s)
    else return .text (op ++ s)
  | .updateExpression op a before _, e, d => do
    let s ← writeExpression a (visit a e d)
    if before then return .text (op ++ s) else return .text (s ++ op)
  | .awaitExpression a _, e, d => do
    return .text ("await " ++ (← writeExpression a (visit a e d)))
  | .yieldExpression a delegate _, e, d => do
    return .text ((if delegate then "yield*" else "yield") ++ (← visitMaybe " " a e d))
  | .binaryExpression op l r _, e, d => do
    let sl ← writeExpression l (visit l e d)
    let sr ← writeExpression r (visit r e d)
    return .text (sl ++ " " ++ op ++ " " ++ sr)
  | .assignmentExpression op l r _, e, d => do
    let sl ← writeExpression l (visit l e d)
    let sr ← writeExpression r (visit r e d)
    return .text (sl ++ " " ++ op ++ " " ++ sr)
  | .conditionalExpression t c a _, e, d => do
    let st ← writeExpression t (visit t e d)
    let sc ← writeExpression c (visit c e d)
    let sa ← writeExpression a (visit a e d)
    return .text (st ++ " ? " ++ sc ++ " : " ++ sa)
  | .sequenceExpression es _, e, d => do
    return .text (", ".intercalate (← visitExpressions es e d))
  | .memberExpression o p computed optional _, e, d => do
    let so ← writeExpression o (visit o e d)
    let target := if isPlainNumber o then "(" ++ so ++ ")" else so
    let sp ← writeExpression p (visit p e d)
    if computed then return .text (target ++ (if optional then "?.[" else "[") ++ sp ++ "]")
    else return .text (target ++ (if optional then "?." else ".") ++ sp)
  | .callExpression callee args optional _, e, d => do
    let ss ← visitExpressions args e d
    let s ← writeExpression callee (visit callee e d)
    return .text (s ++ (if optional then "?.(" else "(") ++ ", ".intercalate ss ++ ")")
  | .newExpression callee hasArguments args _, e, d => do
    let s ← writeExpression callee (visit callee e d)
    if hasArguments then
      let ss ← visitExpressions args e d
      return .text ("new " ++ s ++ "(" ++ ", ".intercalate ss ++ ")")
    else return .text ("new " ++ s)
  | .parenthesizedExpression x _, e, d => do
    return .text ("(" ++ (← writeExpression x (visit x e d)) ++ ")")
  | .variableDeclarator id init p, _, _ =>
    .error (.ofNode .unprintable (.variableDeclarator id init p))
  | .catchClause c b p, _, _ => .error (.ofNode .unprintable (.catchClause c b p))
  | .switchCase t c p, _, _ => .error (.ofNode .unprintable (.switchCase t c p))
  | .methodDefinition k v kind s c p, _, _ =>
    .error (.ofNode .unprintable (.methodDefinition k v kind s c p))
  | .propertyDefinition k v s c p, _, _ =>
    .error (.ofNode .unprintable (.propertyDefinition k v s c p))

/-- Visits the statements inside a block. -/
def visitInside : Node → Emitter → Printing Emitter
  | .blockStatement body _, e => visitStatements body e
  | _, e => return e

/-- Visits statements, one below the other. -/
def visitStatements : List Node → Emitter → Printing Emitter
  | [], e => return e
  | n :: ns, e => do visitStatements ns (← writeStatement n e (visit n e 0))

/-- Visits expressions. -/
def visitExpressions : List Node → Emitter → Nat → Printing (List String)
  | [], _, _ => return []
  | n :: ns, e, d => do
    let s ← writeExpression n (visit n e d)
    return s :: (← visitExpressions ns e d)

/-- Visits the entries of an array; a hole is an empty text. -/
def visitElements : List (Option Node) → Emitter → Nat → Printing (List String)
  | [], _, _ => return []
  | none :: es, e, d => do return "" :: (← visitElements es e d)
  | some n :: es, e, d => do
    let s ← writeExpression n (visit n e d)
    return s :: (← visitElements es e d)

/-- Visits an expression that may be missing, with text in front. -/
def visitMaybe (before : String) : Option Node → Emitter → Nat → Printing String
  | none, _, _ => return ""
  | some n, e, d => do return before ++ (← writeExpression n (visit n e d))

/-- Visits an expression that must be there. -/
def visitRequired : Option Node → Emitter → Nat → Printing String
  | none, _, _ => .error ⟨.lacks "accept", "NoneType", {}⟩
  | some n, e, d => writeExpression n (visit n e d)

/-- Visits the substitutions of a template with the text behind each. -/
def visitTemplate : List Node → List String → Emitter → Nat → Printing String
  | n :: ns, q :: qs, e, d => do
    let s ← writeExpression n (visit n e d)
    return "$\x7b" ++ s ++ "\x7d" ++ q ++ (← visitTemplate ns qs e d)
  | _, _, _, _ => return ""

/-- Visits the variables of a declaration. -/
def visitDeclarators : List Node → Emitter → Nat → Printing (List String)
  | [], _, _ => return []
  | .variableDeclarator id init _ :: ds, e, d => do
    let s ← writeExpression id (visit id e d)
    let s := s ++ (← visitMaybe " = " init e d)
    return s :: (← visitDeclarators ds e d)
  | n :: _, _, _ => .error (.ofNode (.lacks "id") n)

/-- Visits the body of a function within an expression: by a printer of its own. -/
def visitFunctionBody : Node → Emitter → Nat → Printing String
  | .blockStatement body _, e, d =>
    writeBraced e d body.isEmpty (visitStatements body (e.inner d))
  | .program body _, e, d => writeBraced e d body.isEmpty (visitStatements body (e.inner d))
  | n, _, _ => .error (.ofNode (.lacks "body") n)

/-- Visits a member of an object that is a function. -/
def visitObjectMethod (kind : MemberKind) (key : String) :
    Option Node → Emitter → Nat → Printing String
  | some (.functionExpression _ params body isAsync generator _), e, d => do
    let ps ← visitExpressions params e d
    let b ← visitFunctionBody body e d
    return methodWords kind isAsync generator ++ key ++ "(" ++ ", ".intercalate ps ++ ") " ++ b
  | some (.functionDeclaration _ params body isAsync generator _), e, d => do
    let ps ← visitExpressions params e d
    let b ← visitFunctionBody body e d
    return methodWords kind isAsync generator ++ key ++ "(" ++ ", ".intercalate ps ++ ") " ++ b
  | some n, _, _ => .error (noMethod n)
  | none, _, _ => .error ⟨.lacks "is_async", "NoneType", {}⟩

/-- Visits a member of a class that is a function. -/
def visitClassMethod (words : String) (kind : MemberKind) (key : String) :
    Node → Emitter → Printing Emitter
  | .functionExpression _ params body isAsync generator _, e => do
    let ps ← visitExpressions params e 0
    let header := words ++ methodWords kind isAsync generator ++ key ++
      "(" ++ ", ".intercalate ps ++ ")"
    writeBody e false header body (visit body · 0) (visitInside body)
  | .functionDeclaration _ params body isAsync generator _, e => do
    let ps ← visitExpressions params e 0
    let header := words ++ methodWords kind isAsync generator ++ key ++
      "(" ++ ", ".intercalate ps ++ ")"
    writeBody e false header body (visit body · 0) (visitInside body)
  | n, _ => .error (noMethod n)

/-- Visits the members of a class. -/
def visitMembers : List Node → Emitter → Printing Emitter
  | [], e => return e
  | .methodDefinition k v kind isStatic computed _ :: ms, e => do
    let key := writeKey computed (← writeExpression k (visit k e 0))
    let e ← visitClassMethod (if isStatic then "static " else "") kind key v e
    visitMembers ms e
  | .propertyDefinition k v isStatic computed _ :: ms, e => do
    let key := writeKey computed (← writeExpression k (visit k e 0))
    let value ← visitMaybe " = " v e 0
    visitMembers ms (e.emit ((if isStatic then "static " else "") ++ key ++ value ++ ";"))
  | n :: _, _ => .error (.ofNode .unprintable n)

/-- Visits what follows the first branch of a choice, behind its closing brace if there is one. -/
def visitAlternate : Option Node → Bool → Emitter → Printing Emitter
  | none, _, e => return e
  | some (.ifStatement t c a _), joined, e => do
    let s ← writeExpression t (visit t e 0)
    let e ← writeBody e joined ("else if (" ++ s ++ ")") c (visit c · 0) (visitInside c)
    visitAlternate a (isBlock c) e
  | some n, joined, e => writeBody e joined "else" n (visit n · 0) (visitInside n)

/-- Visits what is done with an exception. -/
def visitHandler : Option Node → Emitter → Printing Emitter
  | none, e => return e
  | some (.catchClause none body _), e =>
    writeBody e true "catch" body (visit body · 0) (visitInside body)
  | some (.catchClause (some p) body _), e => do
    let s ← writeExpression p (visit p e 0)
    writeBody e true ("catch (" ++ s ++ ")") body (visit body · 0) (visitInside body)
  | some n, _ => .error (.ofNode (.lacks "param") n)

/-- Visits what is done in any case. -/
def visitFinalizer : Option Node → Emitter → Printing Emitter
  | none, e => return e
  | some n, e => writeBody e true "finally" n (visit n · 0) (visitInside n)

/-- Visits the cases of a choice among values. -/
def visitCases : List Node → Emitter → Printing Emitter
  | [], e => return e
  | .switchCase none ss _ :: cs, e => do
    let e := (← visitStatements ss (e.emit "default:").indent).dedent
    visitCases cs e
  | .switchCase (some t) ss _ :: cs, e => do
    let s ← writeExpression t (visit t e 0)
    let e := (← visitStatements ss (e.emit ("case " ++ s ++ ":")).indent).dedent
    visitCases cs e
  | n :: _, _ => .error (.ofNode (.lacks "test") n)

end

/-- Prints a tree into a buffer, `indent` spaces for every level. -/
def write (n : Node) (indent : Nat) : Printing String := do
  let e : Emitter := { step := String.ofList (List.replicate indent ' ') }
  return (← writeStatement n e (visit n e 0)).value

end LoopBound.Layout
