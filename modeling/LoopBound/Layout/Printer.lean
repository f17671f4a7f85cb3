import LoopBound.Layout.Line
import LoopBound.Syntax.Node
import LoopBound.Diagnostic.Report
import LoopBound.Text.Alphanumeric
import LoopBound.Text.Blank
import LoopBound.Text.Digit

/-!
# Printing

Prints a syntax tree: one statement on a line, blocks in braces on the line of their header, and
`else`, `catch`, `finally` and the `while` of a `do` loop behind the closing brace. Expressions keep
the grouping of the tree, which has a node for every pair of parentheses; three pairs are added,
where the text would otherwise be read as something else.

A tree may hold nodes in places where no program has them. Nodes are printed from left to right (the
arguments of a call before what is called), and the first node that does not fit is the error.
-/

namespace LoopBound.Layout

open LoopBound.Syntax LoopBound.Diagnostic
open LoopBound.Text (Position isAlphanumeric isMargin isDigit)

/-- Why a node cannot be printed. -/
inductive Misfit where
  | unprintable
  | notStatement
  | notExpression
  | lacks (field : String)
  | noText
  deriving DecidableEq, Repr

/-- A node that cannot be printed where it stands. -/
structure PrintError where
  misfit : Misfit
  type : String
  position : Position
  deriving DecidableEq, Repr

namespace PrintError

/-- The error of a node. -/
def ofNode (m : Misfit) (n : Node) : PrintError :=
  ⟨m, n.typeName, n.loc⟩

/-- The message of an error. -/
def message (e : PrintError) : String :=
  match e.misfit with
  | .unprintable => "Cannot generate code for " ++ e.type
  | .notStatement => e.type ++ " is not a statement"
  | .notExpression => e.type ++ " is not an expression"
  | .lacks field => "'" ++ e.type ++ "' object has no attribute '" ++ field ++ "'"
  | .noText => "list index out of range"

/-- The report of an error. -/
def report (e : PrintError) : Report :=
  ⟨.printing, .unsupportedNode, e.message, .ofPosition e.position "", ""⟩

end PrintError

/-- A result, or the first node that does not fit. -/
abbrev Printing := Except PrintError

/-- What a node prints. A declaration is a line among statements and a piece of text in the header
of a loop. -/
inductive Output where
  | lines (ls : Lines)
  | block (inner : Lines) (isEmpty : Bool)
  | declaration (f : Fragment)
  | text (f : Fragment)

/-! ## Decisions on text -/

/-- The widest object on one line. -/
def inlineWidth : Nat :=
  72

/-- The text goes on with a character of a word. -/
def wordGoesOn : List Char → Bool
  | [] => false
  | c :: _ => isAlphanumeric c || c == '_'

/-- The text begins with this word. -/
def beginsWithWord (word : String) (cs : List Char) : Bool :=
  word.toList.isPrefixOf cs && !wordGoesOn (cs.drop word.length)

/-- An expression whose text would be read as another statement. -/
def looksLikeStatement (cs : List Char) : Bool :=
  let behind (word : String) : List Char := (cs.drop word.length).dropWhile isMargin
  "\x7b".toList.isPrefixOf cs || beginsWithWord "function" cs || beginsWithWord "class" cs ||
    ("async".toList.isPrefixOf cs && (cs[5]?.any isMargin) &&
      beginsWithWord "function" (behind "async")) ||
    ("let".toList.isPrefixOf cs && "[".toList.isPrefixOf (behind "let"))

/-- A number on which a dot would be read as its own. -/
def isPlainNumber : Node → Bool
  | .literal raw .number _ => !raw.isEmpty && raw.toList.all fun c => isDigit c || c == '_'
  | _ => false

/-- Prefix operators that are words. -/
def isWordOperator (op : String) : Bool :=
  ["typeof", "void", "delete", "in", "instanceof"].contains op

/-! ## Pieces of layout -/

namespace Output

/-- The lines of a node among statements. -/
def asStatement (n : Node) : Output → Printing Lines
  | lines ls => .ok ls
  | block inner isEmpty =>
    .ok (if isEmpty then .line "\x7b\x7d"
      else .line "\x7b" ++ inner.indented ++ .line "\x7d")
  | declaration f => .ok (.line (f ++ ";"))
  | text _ => .error (.ofNode .notStatement n)

/-- The text of a node in an expression. -/
def asExpression (n : Node) : Output → Printing Fragment
  | declaration f => .ok f
  | text f => .ok f
  | _ => .error (.ofNode .notExpression n)

/-- A header with its body: a block begins on the line of the header, another statement stands below
it. Where the header itself stands is up to `place`. -/
def under (place : Fragment → Lines) (header : Fragment) (body : Node) : Output → Printing Lines
  | block inner isEmpty =>
    .ok (if isEmpty then place (header ++ " \x7b\x7d")
      else place (header ++ " \x7b") ++ inner.indented ++ .line "\x7d")
  | out => do return place header ++ (← out.asStatement body).indented

end Output

/-- Lines in braces, within an expression. -/
def bracedLines (inner : Lines) (isEmpty : Bool) : Fragment :=
  if isEmpty then "\x7b\x7d"
  else
    let inside := if inner.lines.isEmpty then [⟨.edge, ""⟩] else inner.indented.lines
    ⟨"\x7b", inside ++ [⟨.steps 0, "\x7d"⟩]⟩

/-- An object: on one line if it fits, else one property on a line. -/
def objectOf (parts : List Fragment) : Fragment :=
  if parts.isEmpty then "\x7b\x7d"
  else
    let inline : Fragment := "\x7b " ++ Fragment.join ", " parts ++ " \x7d"
    if inline.tail.isEmpty && inline.head.length ≤ inlineWidth then inline
    else
      let last := parts.length - 1
      let rows := parts.zipIdx.flatMap fun (p, i) =>
        (if i < last then p ++ "," else p).lines 1
      ⟨"\x7b", rows ++ [⟨.steps 0, "\x7d"⟩]⟩

/-- Entries of an array; a hole at the end needs a comma of its own. -/
def elementsOf (parts : List Fragment) (endsInHole : Bool) : Fragment :=
  Fragment.join ", " parts ++ (if endsInHole then "," else "")

/-- The last entry is a hole. -/
def endsInHole (es : List (Option Node)) : Bool :=
  match es.getLast? with
  | some none => true
  | _ => false

/-- The words in front of a function's parameters. -/
def functionWords (isAsync generator : Bool) : String :=
  (if isAsync then "async " else "") ++ (if generator then "function*" else "function")

/-- The words in front of a method's key. -/
def methodWords (kind : MemberKind) (isAsync generator : Bool) : String :=
  (if kind == .get then "get " else if kind == .set then "set " else "") ++
    (if isAsync then "async " else "") ++ (if generator then "*" else "")

/-- A key, in brackets if it is computed. -/
def keyOf (computed : Bool) (key : Fragment) : Fragment :=
  if computed then "[" ++ key ++ "]" else key

/-- The name of an identifier. -/
def nameOf : Node → Printing String
  | .identifier s _ => .ok s
  | n => .error (.ofNode (.lacks "name") n)

/-- The name of an identifier that may be missing. -/
def nameOf? : Option Node → Printing (Option String)
  | none => .ok none
  | some n => do return some (← nameOf n)

/-- A block statement. -/
def isBlock : Node → Bool
  | .blockStatement .. => true
  | _ => false

/-- The error of a member whose value is no function that a member can have. -/
def noMethod : Node → PrintError
  | .arrowFunctionExpression ps body isAsync p =>
    .ofNode (.lacks "generator") (.arrowFunctionExpression ps body isAsync p)
  | n => .ofNode (.lacks "is_async") n

/-- The output of a node whose parts are text. -/
def textOf (f : Fragment) : Printing Output :=
  .ok (.text f)

/-- The output of a statement that is one line. -/
def lineOf (f : Fragment) : Printing Output :=
  .ok (.lines (.line f))

/-! ## Nodes -/

mutual

/-- Prints a node. -/
def print : Node → Printing Output
  | .program body _ => do return .lines (← statements body)
  | .blockStatement body _ => do return .block (← statements body) body.isEmpty
  | .emptyStatement _ => lineOf ";"
  | .expressionStatement e _ => do
    let f ← (← print e).asExpression e
    if looksLikeStatement f.text.toList then lineOf ("(" ++ f ++ ");") else lineOf (f ++ ";")
  | .variableDeclaration kind ds _ => do
    let fs ← declarators ds
    return .declaration ((kind.word ++ " " : String) ++ Fragment.join ", " fs)
  | .functionDeclaration id params body isAsync generator _ => do
    let name ← nameOf id
    let ps ← expressions params
    let header : Fragment :=
      functionWords isAsync generator ++ " " ++ name ++ "(" ++ Fragment.join ", " ps ++ ")"
    return .lines (← (← print body).under .line header body)
  | .classDeclaration id superclass ms _ => do
    let name ← nameOf id
    let heritage ← maybe " extends " superclass
    let header : Fragment := "class " ++ name ++ heritage
    if ms.isEmpty then lineOf (header ++ " \x7b\x7d")
    else
      return .lines (.line (header ++ " \x7b") ++ (← members ms).indented ++ .line "\x7d")
  | .ifStatement t c a _ => do
    let f ← (← print t).asExpression t
    let ls ← (← print c).under .line ("if (" ++ f ++ ")") c
    return .lines (← alternate ls (isBlock c) a)
  | .forStatement _ i t u body _ => do
    let fi ← maybe "" i
    let ft ← maybe " " t
    let fu ← maybe " " u
    let header : Fragment := "for (" ++ fi ++ ";" ++ ft ++ ";" ++ fu ++ ")"
    return .lines (← (← print body).under .line header body)
  | .forInStatement _ l r body _ => do
    let fl ← (← print l).asExpression l
    let fr ← (← print r).asExpression r
    return .lines (← (← print body).under .line ("for (" ++ fl ++ " in " ++ fr ++ ")") body)
  | .forOfStatement _ l r body isAwait _ => do
    let fl ← (← print l).asExpression l
    let fr ← (← print r).asExpression r
    let header : Fragment :=
      (if isAwait then "for await (" else "for (" : String) ++ fl ++ " of " ++ fr ++ ")"
    return .lines (← (← print body).under .line header body)
  | .whileStatement _ t body _ => do
    let f ← (← print t).asExpression t
    return .lines (← (← print body).under .line ("while (" ++ f ++ ")") body)
  | .doWhileStatement _ body t _ => do
    let ls ← (← print body).under .line "do" body
    let f ← (← print t).asExpression t
    return .lines (ls.put (isBlock body) ("while (" ++ f ++ ");"))
  | .returnStatement a _ => do lineOf ("return" ++ (← maybe " " a) ++ ";")
  | .throwStatement a _ => do lineOf ("throw " ++ (← (← print a).asExpression a) ++ ";")
  | .breakStatement l _ => do
    match ← nameOf? l with
    | some s => lineOf ("break " ++ s ++ ";")
    | none => lineOf "break;"
  | .continueStatement l _ => do
    match ← nameOf? l with
    | some s => lineOf ("continue " ++ s ++ ";")
    | none => lineOf "continue;"
  | .debuggerStatement _ => lineOf "debugger;"
  | .labeledStatement l body _ => do
    let name ← nameOf l
    return .lines (.label (name ++ ": ") ++ (← (← print body).asStatement body))
  | .tryStatement b h f _ => do
    let ls ← (← print b).under .line "try" b
    return .lines (← finalizer (← handler ls h) f)
  | .switchStatement d cs _ => do
    let f ← (← print d).asExpression d
    let header : Fragment := "switch (" ++ f ++ ")"
    if cs.isEmpty then lineOf (header ++ " \x7b\x7d")
    else return .lines (.line (header ++ " \x7b") ++ (← cases cs).indented ++ .line "\x7d")
  | .identifier s _ => textOf s
  | .literal raw _ _ => textOf raw
  | .templateLiteral [] es p => .error (.ofNode .noText (.templateLiteral [] es p))
  | .templateLiteral (q :: qs) es _ => do textOf ("\x60" ++ q ++ (← template es qs) ++ "\x60")
  | .taggedTemplateExpression t q _ => do
    let ft ← (← print t).asExpression t
    let fq ← (← print q).asExpression q
    textOf (ft ++ fq)
  | .thisExpression _ => textOf "this"
  | .super _ => textOf "super"
  | .arrayExpression es _ => do
    textOf ("[" ++ elementsOf (← elements es) (endsInHole es) ++ "]")
  | .arrayPattern es _ => do
    textOf ("[" ++ elementsOf (← elements es) (endsInHole es) ++ "]")
  | .objectExpression ps _ => do textOf (objectOf (← expressions ps))
  | .objectPattern ps _ => do textOf (objectOf (← expressions ps))
  | .property k v kind computed shorthand method _ => do
    let key := keyOf computed (← (← print k).asExpression k)
    if kind == .get || kind == .set || method then
      textOf (← objectMethod kind key v)
    else if shorthand then textOf (← shorthandValue key v)
    else textOf (key ++ ": " ++ (← required v))
  | .spreadElement a _ => do textOf ("..." ++ (← (← print a).asExpression a))
  | .restElement a _ => do textOf ("..." ++ (← (← print a).asExpression a))
  | .assignmentPattern l r _ => do
    let fl ← (← print l).asExpression l
    let fr ← (← print r).asExpression r
    textOf (fl ++ " = " ++ fr)
  | .functionExpression id params body isAsync generator _ => do
    let name ← nameOf? id
    let ps ← expressions params
    let b ← functionBody body
    let words := functionWords isAsync generator ++ " " ++ name.getD ""
    textOf (words ++ "(" ++ Fragment.join ", " ps ++ ") " ++ b)
  | .arrowFunctionExpression params body isAsync _ => do
    let ps ← expressions params
    let head : Fragment :=
      (if isAsync then "async (" else "(" : String) ++ Fragment.join ", " ps ++ ") => "
    match ← print body with
    | .block inner isEmpty => textOf (head ++ bracedLines inner isEmpty)
    | out =>
      let f ← out.asExpression body
      if f.beginsWith "\x7b" then textOf (head ++ "(" ++ f ++ ")") else textOf (head ++ f)
  | .classExpression id superclass ms _ => do
    let name ← nameOf? id
    let heritage ← maybe " extends " superclass
    let body ← members ms
    let header : Fragment := "class" ++ (name.elim "" (" " ++ ·)) ++ heritage
    textOf (header ++ " " ++ bracedLines body ms.isEmpty)
  | .unaryExpression op a _ => do
    let f ← (← print a).asExpression a
    if isWordOperator op || ((op == "+" || op == "-") && f.beginsWith op) then
      textOf (op ++ " " ++ f)
    else textOf (op ++ f)
  | .updateExpression op a before _ => do
    let f ← (← print a).asExpression a
    if before then textOf (op ++ f) else textOf (f ++ op)
  | .awaitExpression a _ => do textOf ("await " ++ (← (← print a).asExpression a))
  | .yieldExpression a delegate _ => do
    textOf ((if delegate then "yield*" else "yield" : String) ++ (← maybe " " a))
  | .binaryExpression op l r _ => do
    let fl ← (← print l).asExpression l
    let fr ← (← print r).asExpression r
    textOf (fl ++ " " ++ op ++ " " ++ fr)
  | .assignmentExpression op l r _ => do
    let fl ← (← print l).asExpression l
    let fr ← (← print r).asExpression r
    textOf (fl ++ " " ++ op ++ " " ++ fr)
  | .conditionalExpression t c a _ => do
    let ft ← (← print t).asExpression t
    let fc ← (← print c).asExpression c
    let fa ← (← print a).asExpression a
    textOf (ft ++ " ? " ++ fc ++ " : " ++ fa)
  | .sequenceExpression es _ => do textOf (Fragment.join ", " (← expressions es))
  | .memberExpression o p computed optional _ => do
    let fo ← (← print o).asExpression o
    let target : Fragment := if isPlainNumber o then "(" ++ fo ++ ")" else fo
    let fp ← (← print p).asExpression p
    if computed then textOf (target ++ (if optional then "?.[" else "[") ++ fp ++ "]")
    else textOf (target ++ (if optional then "?." else ".") ++ fp)
  | .callExpression callee args optional _ => do
    let fs ← expressions args
    let f ← (← print callee).asExpression callee
    textOf (f ++ (if optional then "?.(" else "(") ++ Fragment.join ", " fs ++ ")")
  | .newExpression callee hasArguments args _ => do
    let f ← (← print callee).asExpression callee
    if hasArguments then
      let fs ← expressions args
      textOf ("new " ++ f ++ "(" ++ Fragment.join ", " fs ++ ")")
    else textOf ("new " ++ f)
  | .parenthesizedExpression e _ => do textOf ("(" ++ (← (← print e).asExpression e) ++ ")")
  | .variableDeclarator id init p =>
    .error (.ofNode .unprintable (.variableDeclarator id init p))
  | .catchClause c b p => .error (.ofNode .unprintable (.catchClause c b p))
  | .switchCase t c p => .error (.ofNode .unprintable (.switchCase t c p))
  | .methodDefinition k v kind s c p =>
    .error (.ofNode .unprintable (.methodDefinition k v kind s c p))
  | .propertyDefinition k v s c p => .error (.ofNode .unprintable (.propertyDefinition k v s c p))

/-- Prints statements, one below the other. -/
def statements : List Node → Printing Lines
  | [] => .ok .none
  | n :: ns => do
    let ls ← (← print n).asStatement n
    return ls ++ (← statements ns)

/-- Prints expressions. -/
def expressions : List Node → Printing (List Fragment)
  | [] => .ok []
  | n :: ns => do
    let f ← (← print n).asExpression n
    return f :: (← expressions ns)

/-- Prints the entries of an array; a hole prints nothing. -/
def elements : List (Option Node) → Printing (List Fragment)
  | [] => .ok []
  | none :: es => do return "" :: (← elements es)
  | some n :: es => do
    let f ← (← print n).asExpression n
    return f :: (← elements es)

/-- Prints an expression that may be missing, with text in front. -/
def maybe (before : String) : Option Node → Printing Fragment
  | none => .ok ""
  | some n => do return before ++ (← (← print n).asExpression n)

/-- Prints an expression that must be there. -/
def required : Option Node → Printing Fragment
  | none => .error ⟨.lacks "accept", "NoneType", {}⟩
  | some n => do (← print n).asExpression n

/-- Prints a property without a key of its own: the name, or the name with its default. -/
def shorthandValue (key : Fragment) : Option Node → Printing Fragment
  | some (.assignmentPattern l r _) => do
    let fl ← (← print l).asExpression l
    let fr ← (← print r).asExpression r
    return fl ++ " = " ++ fr
  | _ => .ok key

/-- Prints the substitutions of a template with the text behind each. -/
def template : List Node → List String → Printing Fragment
  | e :: es, q :: qs => do
    let f ← (← print e).asExpression e
    return "$\x7b" ++ f ++ "\x7d" ++ q ++ (← template es qs)
  | _, _ => .ok ""

/-- Prints the variables of a declaration. -/
def declarators : List Node → Printing (List Fragment)
  | [] => .ok []
  | .variableDeclarator id init _ :: ds => do
    let f ← (← print id).asExpression id
    let f := f ++ (← maybe " = " init)
    return f :: (← declarators ds)
  | n :: _ => .error (.ofNode (.lacks "id") n)

/-- Prints the body of a function within an expression. -/
def functionBody : Node → Printing Fragment
  | .blockStatement body _ => do return bracedLines (← statements body) body.isEmpty
  | .program body _ => do return bracedLines (← statements body) body.isEmpty
  | n => .error (.ofNode (.lacks "body") n)

/-- Prints a member of an object that is a function. -/
def objectMethod (kind : MemberKind) (key : Fragment) : Option Node → Printing Fragment
  | some (.functionExpression _ params body isAsync generator _) => do
    let ps ← expressions params
    let b ← functionBody body
    return methodWords kind isAsync generator ++ key ++ "(" ++ Fragment.join ", " ps ++ ") " ++ b
  | some (.functionDeclaration _ params body isAsync generator _) => do
    let ps ← expressions params
    let b ← functionBody body
    return methodWords kind isAsync generator ++ key ++ "(" ++ Fragment.join ", " ps ++ ") " ++ b
  | some n => .error (noMethod n)
  | none => .error ⟨.lacks "is_async", "NoneType", {}⟩

/-- Prints a member of a class that is a function. -/
def classMethod (words : String) (kind : MemberKind) (key : Fragment) : Node → Printing Lines
  | .functionExpression _ params body isAsync generator _ => do
    let ps ← expressions params
    let header : Fragment := words ++ methodWords kind isAsync generator ++ key ++
      "(" ++ Fragment.join ", " ps ++ ")"
    (← print body).under .line header body
  | .functionDeclaration _ params body isAsync generator _ => do
    let ps ← expressions params
    let header : Fragment := words ++ methodWords kind isAsync generator ++ key ++
      "(" ++ Fragment.join ", " ps ++ ")"
    (← print body).under .line header body
  | n => .error (noMethod n)

/-- Prints the members of a class. -/
def members : List Node → Printing Lines
  | [] => .ok .none
  | .methodDefinition k v kind isStatic computed _ :: ms => do
    let key := keyOf computed (← (← print k).asExpression k)
    let ls ← classMethod (if isStatic then "static " else "") kind key v
    return ls ++ (← members ms)
  | .propertyDefinition k v isStatic computed _ :: ms => do
    let key := keyOf computed (← (← print k).asExpression k)
    let value ← maybe " = " v
    let ls : Lines := .line ((if isStatic then "static " else "" : String) ++ key ++ value ++ ";")
    return ls ++ (← members ms)
  | n :: _ => .error (.ofNode .unprintable n)

/-- Prints what follows the first branch of a choice, behind its closing brace if there is one. -/
def alternate (before : Lines) (braced : Bool) : Option Node → Printing Lines
  | none => .ok before
  | some (.ifStatement t c a _) => do
    let f ← (← print t).asExpression t
    let ls ← (← print c).under (before.put braced) ("else if (" ++ f ++ ")") c
    alternate ls (isBlock c) a
  | some n => do (← print n).under (before.put braced) "else" n

/-- Prints what is done with an exception. -/
def handler (before : Lines) : Option Node → Printing Lines
  | none => .ok before
  | some (.catchClause none body _) => do (← print body).under (before.put true) "catch" body
  | some (.catchClause (some p) body _) => do
    let f ← (← print p).asExpression p
    (← print body).under (before.put true) ("catch (" ++ f ++ ")") body
  | some n => .error (.ofNode (.lacks "param") n)

/-- Prints what is done in any case. -/
def finalizer (before : Lines) : Option Node → Printing Lines
  | none => .ok before
  | some n => do (← print n).under (before.put true) "finally" n

/-- Prints the cases of a choice among values. -/
def cases : List Node → Printing Lines
  | [] => .ok .none
  | .switchCase none ss _ :: cs => do
    let ls : Lines := .line "default:" ++ (← statements ss).indented
    return ls ++ (← cases cs)
  | .switchCase (some t) ss _ :: cs => do
    let f ← (← print t).asExpression t
    let ls : Lines := .line ("case " ++ f ++ ":") ++ (← statements ss).indented
    return ls ++ (← cases cs)
  | n :: _ => .error (.ofNode (.lacks "test") n)

end

/-- The lines of a tree. -/
def layout (n : Node) : Printing (List Line) := do
  return (← (← print n).asStatement n).lines

/-- Prints a tree, `indent` spaces for every step. -/
def generate (n : Node) (indent : Int) : Printing String := do
  return renderLines indent.toNat (← layout n)

end LoopBound.Layout
