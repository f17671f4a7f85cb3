import LoopBound.Guard.Name
import LoopBound.Syntax.Loop

/-!
# Finding loops

The loops of a tree whose kinds are enabled, in source order. Each is given a number of its own and
a guard name; loops of other kinds are seen but take no number.
-/

namespace LoopBound.Guard

open LoopBound.Syntax
open LoopBound.Text (Position)

/-- A loop that was found. -/
structure FoundLoop where
  id : LoopId
  kind : LoopKind
  order : Nat
  guard : String
  position : Position
  deriving Repr, DecidableEq, Inhabited

/-- What a search meets. -/
inductive Sighting where
  | found (l : FoundLoop)
  | skipped (kind : LoopKind) (position : Position)

/-- The loop of a sighting that was not skipped. -/
def Sighting.loop? : Sighting → Option FoundLoop
  | found l => some l
  | skipped .. => none

/-- Goes through nodes and hands out numbers to the loops of enabled kinds. -/
def sightings (kinds : List LoopKind) : Context → List Node → List Sighting × Context
  | c, [] => ([], c)
  | c, n :: ns =>
    match n.loop? with
    | none => sightings kinds c ns
    | some l =>
      if l.kind ∈ kinds then
        let (order, c) := c.allocate
        let (rest, c) := sightings kinds c ns
        (.found ⟨l.id, l.kind, order, c.nameFor order, n.loc⟩ :: rest, c)
      else
        let (rest, c) := sightings kinds c ns
        (.skipped l.kind n.loc :: rest, c)

/-- Searches a tree, past the numbers it already carries. -/
def survey (root : Node) (kinds : List LoopKind) (c : Context) : List Sighting × Context :=
  sightings kinds (c.skipPast (highestNumber c.stem root)) root.preorder

/-- The loops of enabled kinds. -/
def locate (root : Node) (kinds : List LoopKind) (c : Context) : List FoundLoop × Context :=
  let (seen, c) := survey root kinds c
  (seen.filterMap Sighting.loop?, c)

end LoopBound.Guard
