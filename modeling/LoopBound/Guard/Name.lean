import LoopBound.Syntax.Walk
import LoopBound.Text.Digit

/-!
# Names of guards

A guard is named by a stem and a number. A `Context` hands out numbers in ascending order; before a
tree is searched it skips past the numbers that identifiers of the tree already carry, however their
digits are written.
-/

namespace LoopBound.Guard

open LoopBound.Syntax LoopBound.Text

/-- The usual stem. -/
def usualStem : String :=
  "loopGuard_"

/-- The name with a stem and a number. -/
def guardName (stem : String) (order : Int) : String :=
  stem ++ toString order

/-- Hands out numbers. -/
structure Context where
  stem : String := usualStem
  counter : Nat := 0
  allocated : List String := []
  deriving Repr, DecidableEq, Inhabited

namespace Context

/-- The name for a number. -/
def nameFor (c : Context) (order : Int) : String :=
  guardName c.stem order

/-- Hands out the next number. -/
def allocate (c : Context) : Nat × Context :=
  let order := c.counter + 1
  (order, { c with counter := order, allocated := c.allocated ++ [c.nameFor order] })

/-- Begins anew. -/
def reset (c : Context) : Context :=
  { c with counter := 0, allocated := [] }

/-- Hands out no number up to `order` any more. -/
def skipPast (c : Context) (order : Int) : Context :=
  { c with counter := max c.counter order.toNat }

end Context

/-- The number of a name that is the stem followed by digits alone. -/
def numberIn? (stem name : String) : Option Nat :=
  if stem.toList.isPrefixOf name.toList then numberOf? (name.toList.drop stem.length) else none

/-- The number that a node carries as an identifier. -/
def nodeNumber? (stem : String) : Node → Option Nat
  | .identifier name _ => numberIn? stem name
  | _ => none

/-- The highest number that an identifier of the tree carries; 0 if there is none. -/
def highestNumber (stem : String) (root : Node) : Nat :=
  (root.preorder.filterMap (nodeNumber? stem)).foldl max 0

end LoopBound.Guard
