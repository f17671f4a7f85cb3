import LoopBound.Reading.Part

/-!
# Parts: statements

Declarations, loops and the other statements. Loops get their numbers only when the tree is
complete.
-/

namespace LoopBound.Reading

open LoopBound.Syntax LoopBound.Grammar
open LoopBound.Text (Position)

namespace Part

/-- A variable with its first value. -/
def variableDeclarator : List Part → Part
  | [pattern n] => declarator (.variableDeclarator n none n.loc)
  | [pattern n, expression v] => declarator (.variableDeclarator n (some v) n.loc)
  | _ => nothing

/-- A declaration of variables. -/
def variableDeclaration (loc : Position) : List Part → Part
  | kind k :: ps => declaration (.variableDeclaration k (ps.filterMap declarator?) loc)
  | _ => nothing

/-- The declaration of a loop that goes through items. -/
def forDeclaration (loc : Position) : List Part → Part
  | [kind k, pattern n] =>
    declaration (.variableDeclaration k [.variableDeclarator n none n.loc] loc)
  | _ => nothing

/-- What a loop binds in every round. -/
def forBinding : List Part → Part
  | [declaration n] => binding n
  | [expression n] => binding n
  | _ => nothing

/-- What a loop does first. -/
def forInit : List Part → Part
  | [declaration n] => init n
  | [expression n] => init n
  | _ => nothing

/-- When a loop goes on. -/
def forTest : List Part → Part
  | [expression n] => test n
  | _ => nothing

/-- What a loop does after every round. -/
def forUpdate : List Part → Part
  | [expression n] => update n
  | _ => nothing

/-- A loop with three parts in its header. Loops are numbered when the tree is complete. -/
def forStatement (loc : Position) (ps : List Part) : Part :=
  let (i, ps) := splitInit ps
  let (t, ps) := splitTest ps
  let (u, ps) := splitUpdate ps
  match ps with
  | [statement b] => statement (.forStatement 0 i t u b loc)
  | _ => nothing

/-- A loop over keys. -/
def forInStatement (loc : Position) : List Part → Part
  | [binding l, expression r, statement b] => statement (.forInStatement 0 l r b loc)
  | _ => nothing

/-- A loop over items. -/
def forOfStatement (loc : Position) (isAwait : Bool) : List Part → Part
  | [binding l, expression r, statement b] => statement (.forOfStatement 0 l r b isAwait loc)
  | _ => nothing

/-- A loop that tests first. -/
def whileStatement (loc : Position) : List Part → Part
  | [expression t, statement b] => statement (.whileStatement 0 t b loc)
  | _ => nothing

/-- A loop that tests last. -/
def doWhileStatement (loc : Position) : List Part → Part
  | [statement b, expression t] => statement (.doWhileStatement 0 b t loc)
  | _ => nothing

/-- A declared function. -/
def functionDeclaration (loc : Position) : List Part → Part
  | [head isAsync generator, name s p, function params b] =>
    statement (.functionDeclaration (ident s p) params b isAsync generator loc)
  | _ => nothing

/-- A declared class. -/
def classDeclaration (loc : Position) : List Part → Part
  | [name s p, classTail superclass ms] =>
    statement (.classDeclaration (ident s p) superclass ms loc)
  | _ => nothing

/-- A choice. -/
def ifStatement (loc : Position) : List Part → Part
  | [expression t, statement c] => statement (.ifStatement t c none loc)
  | [expression t, statement c, statement a] => statement (.ifStatement t c (some a) loc)
  | _ => nothing

/-- The end of a loop round or of a loop. -/
def jump (make : Option Node → Node) : List Part → Part
  | [] => statement (make none)
  | [name s p] => statement (make (some (ident s p)))
  | _ => nothing

/-- The end of a function. -/
def returnStatement (loc : Position) : List Part → Part
  | [] => statement (.returnStatement none loc)
  | [expression n] => statement (.returnStatement (some n) loc)
  | _ => nothing

/-- An exception. -/
def throwStatement (loc : Position) : List Part → Part
  | [expression n] => statement (.throwStatement n loc)
  | _ => nothing

/-- A guarded block. -/
def tryStatement (loc : Position) : List Part → Part
  | [block b] => statement (.tryStatement b none none loc)
  | [block b, handler h] => statement (.tryStatement b (some h) none loc)
  | [block b, finalizer f] => statement (.tryStatement b none (some f) loc)
  | [block b, handler h, finalizer f] => statement (.tryStatement b (some h) (some f) loc)
  | _ => nothing

/-- What is done with an exception. -/
def catchClause (loc : Position) : List Part → Part
  | [block b] => handler (.catchClause none b loc)
  | [pattern p, block b] => handler (.catchClause (some p) b loc)
  | _ => nothing

/-- What is done in any case. -/
def finallyClause : List Part → Part
  | [block b] => finalizer b
  | _ => nothing

/-- The value of a case. -/
def caseTest : List Part → Part
  | [expression n] => label (some n)
  | _ => nothing

/-- A case. -/
def switchCase (loc : Position) : List Part → Part
  | [label t, statements ns] => case (.switchCase t ns loc)
  | _ => nothing

/-- A choice among cases. -/
def switchStatement (loc : Position) : List Part → Part
  | [expression d, cases cs] => statement (.switchStatement d cs loc)
  | _ => nothing

/-- A statement with a label. -/
def labeledStatement (loc : Position) : List Part → Part
  | [name s p, statement b] => statement (.labeledStatement (ident s p) b loc)
  | _ => nothing

/-- An expression that is evaluated for its effects. -/
def expressionStatement (loc : Position) : List Part → Part
  | [expression n] => statement (.expressionStatement n loc)
  | _ => nothing

/-- A statement of any kind. -/
def statementOf : List Part → Part
  | [statement n] => statement n
  | [block n] => statement n
  | _ => nothing

/-- A declaration that stands as a statement. -/
def variableStatement : List Part → Part
  | [declaration n] => statement n
  | _ => nothing

/-- The whole program, which begins where the text does. -/
def programOf : List Part → Part
  | [statements ns] => program (.program ns ⟨1, 1⟩)
  | _ => nothing

end Part

end LoopBound.Reading
