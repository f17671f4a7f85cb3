import LoopBound.Transform

/-!
# Sessions

A session works on one tree step by step: it finds loops, guards some of them, hands out numbers,
and may begin anew with another text. The loops last found belong to the tree they were found in.
Once another text has been read they still belong to the old tree, which is kept for them: guarding
them then changes their bodies in the old tree and nothing in the new one.
-/

namespace LoopBound

open LoopBound.Syntax LoopBound.Reading LoopBound.Guard LoopBound.Layout

/-- The state of a session. -/
structure Session where
  tree : Node
  context : Context
  loops : List FoundLoop
  /-- The tree of the loops, if it is not the current one. -/
  oldTree : Option Node

/-- A loop as it is listed: with the type of its body as it is now. -/
structure LoopRow where
  loop : FoundLoop
  bodyType : String

/-- The row of a loop of a tree. -/
def rowIn (root : Node) (l : FoundLoop) : LoopRow :=
  ⟨l, (((root.findLoop? l.id).bind Node.loop?).map fun loop => loop.body.typeName).getD ""⟩

namespace Session

/-- A session on a tree. -/
def start (tree : Node) (stem : String) : Session :=
  ⟨tree, { stem }, [], none⟩

/-- The rows of the loops last found. -/
def rows (s : Session) : List LoopRow :=
  s.loops.map (rowIn (s.oldTree.getD s.tree))

/-- Goes on with another tree; the loops stay those of the old one. -/
def read (s : Session) (tree : Node) : Session :=
  { s with tree, oldTree := some (s.oldTree.getD s.tree) }

/-- Finds loops in the tree, with the numbers of the session or with fresh ones. -/
def find (s : Session) (kinds : List LoopKind) (shared : Bool) : Session :=
  if shared then
    let (loops, context) := locate s.tree kinds s.context
    { s with loops, context, oldTree := none }
  else { s with loops := (locate s.tree kinds {}).1, oldTree := none }

/-- Guards some of the loops last found. -/
def guard (s : Session) (loops : List FoundLoop) (max : Int) (shared : Bool) : Session :=
  let stem? := if shared then some s.context.stem else none
  match s.oldTree with
  | none => { s with tree := inject s.tree loops max stem? }
  | some old => { s with oldTree := some (guardBodies (guardsOf loops stem?) max old) }

/-- The items at these indices, of which a negative one counts from the end; `none` if one is out of
range. -/
def select {α : Type} (xs : List α) (indices : List Int) : Option (List α) :=
  indices.mapM fun (i : Int) =>
    let j : Int := if i < 0 then i + xs.length else i
    if j < 0 then none else xs[j.toNat]?

end Session

end LoopBound
