import LoopBound.Guard.Locate
import LoopBound.Syntax.Rewrite
import LoopBound.Text.Escaped

/-!
# Putting guards into loops

A guarded loop counts its rounds: the guard is declared right in front of the loop, or in front of
the labels of the loop, and the body begins by counting and by throwing once the count is above the
threshold. A body that is no block becomes one.

The bodies are changed first. The declarations are then put in by a rewriting, so a loop that was
the only statement of a branch comes to stand in a block with its declaration.
-/

namespace LoopBound.Guard

open LoopBound.Syntax LoopBound.Text

/-- The position of nodes that no text has. -/
def nowhere : Position :=
  {}

/-- What a guarded loop throws with. -/
def thresholdMessage (guard : String) (max : Int) : String :=
  guard ++ " is greater than " ++ toString max

/-- `let guard = 0` -/
def declaration (guard : String) : Node :=
  .variableDeclaration .let
    [.variableDeclarator (.identifier guard nowhere) (some (.literal "0" .number nowhere)) nowhere]
    nowhere

/-- `guard++` -/
def increment (guard : String) : Node :=
  .expressionStatement (.updateExpression "++" (.identifier guard nowhere) false nowhere) nowhere

/-- `if (guard > max)` with a block that throws. -/
def check (guard : String) (max : Int) : Node :=
  let message := Node.literal (escaped (thresholdMessage guard max)) .string nowhere
  let error := Node.newExpression (.identifier "RangeError" nowhere) true [message] nowhere
  .ifStatement
    (.binaryExpression ">" (.identifier guard nowhere) (.literal (toString max) .number nowhere)
      nowhere)
    (.blockStatement [.throwStatement error nowhere] nowhere) none nowhere

/-- The statements at the top of a guarded body. -/
def guardStatements (guard : String) (max : Int) : List Node :=
  [increment guard, check guard max]

/-! ## Bodies -/

/-- The statements of a body, and where its block begins. -/
def bodyStatements : Node → List Node × Position
  | .blockStatement body p => (body, p)
  | .emptyStatement p => ([], p)
  | n => ([n], n.loc)

/-- A body with a guard at its top. -/
def guardBody (max : Int) (body : Node) (guard : String) : Node :=
  let (statements, p) := bodyStatements body
  .blockStatement (guardStatements guard max ++ statements) p

/-- Guards by the number of the loop; the later ones of a loop come to stand above the earlier. -/
abbrev Guards := List (LoopId × String)

/-- The guards of a loop, in order. -/
def Guards.of (guards : Guards) (id : LoopId) : List String :=
  (guards.filter fun g => g.1 == id).map (·.2)

/-- A loop with the guards in its body. -/
def guardLoop (guards : Guards) (max : Int) (n : Node) : Node :=
  match n.loop? with
  | none => n
  | some l => n.withLoopBody ((guards.of l.id).foldl (guardBody max) l.body)

/-- Puts the guards into the bodies of the loops of a tree. -/
def guardBodies (guards : Guards) (max : Int) (root : Node) : Node :=
  Rewriting.apply (fun _ _ n => .become (guardLoop guards max n)) root

/-! ## Declarations -/

/-- The statement behind a chain of labels. -/
def unlabeled : Node → Node
  | .labeledStatement _ body _ => unlabeled body
  | n => n

/-- The node is a statement with a label. -/
def isLabeled : Node → Bool
  | .labeledStatement .. => true
  | _ => false

/-- The guard of the loop that a node is, behind its labels. -/
def guardBehind? (guards : Guards) (n : Node) : Option String :=
  match (unlabeled n).loopId? with
  | none => none
  | some id => guards.lookup id

/-- Puts the declaration of a guard in front of its loop, and in front of the outermost label. -/
def declareGuards (guards : Guards) (root : Node) : Node :=
  Rewriting.apply (fun parent old new =>
    match guardBehind? guards old with
    | none => .become new
    | some guard =>
      if parent.any isLabeled then .become new else .splice [declaration guard, new]) root

/-! ## Loops -/

/-- The guards of loops in the order of their numbers, named anew by a stem if one is given. -/
def guardsOf (loops : List FoundLoop) (stem? : Option String) : Guards :=
  (loops.mergeSort fun a b => a.order ≤ b.order).map fun l =>
    (l.id, match stem? with
      | some stem => guardName stem l.order
      | none => l.guard)

/-- Guards the loops of a tree. -/
def inject (root : Node) (loops : List FoundLoop) (max : Int) (stem? : Option String) : Node :=
  if loops.isEmpty then root
  else
    let guards := guardsOf loops stem?
    declareGuards guards (guardBodies guards max root)

end LoopBound.Guard
