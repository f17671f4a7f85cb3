import LoopBound.Syntax.Loop

/-!
# Numbering the loops

Gives the loops of a tree the numbers 0, 1, 2, … in source order, so that no two of them share one.
The nodes below a node are numbered one after another and put back where they were.
-/

namespace LoopBound.Syntax

/-! ## Putting nodes back into slots -/

/-- Fills the places of a list with holes, and gives the nodes left over. -/
def refillSparse : List (Option Node) → List Node → List (Option Node) × List Node
  | [], cs => ([], cs)
  | none :: os, cs =>
    let (os, cs) := refillSparse os cs
    (none :: os, cs)
  | some n :: os, [] =>
    let (os, cs) := refillSparse os []
    (some n :: os, cs)
  | some _ :: os, c :: cs =>
    let (os, cs) := refillSparse os cs
    (some c :: os, cs)

/-- Fills a slot with as many nodes as it holds, and gives the nodes left over. -/
def Slot.refill : Slot → List Node → Slot × List Node
  | .one _, c :: cs => (.one c, cs)
  | .maybe (some _), c :: cs => (.maybe (some c), cs)
  | .many ns, cs => (.many (cs.take ns.length), cs.drop ns.length)
  | .sparse ns, cs =>
    let (ns, cs) := refillSparse ns cs
    (.sparse ns, cs)
  | s, cs => (s, cs)

/-- Fills slots in order. -/
def refillSlots : List Slot → List Node → List Slot
  | [], _ => []
  | s :: ss, cs =>
    let (s, cs) := s.refill cs
    s :: refillSlots ss cs

/-- The node with other nodes below it, as many as before. -/
def Node.withChildren (n : Node) (cs : List Node) : Node :=
  n.withSlots (refillSlots n.slots cs)

/-! ## Numbers -/

/-- Maps a list with a counter that goes from each item to the next. -/
def threaded {α β : Type} :
    (xs : List α) → ((x : α) → x ∈ xs → Nat → β × Nat) → Nat → List β × Nat
  | [], _, next => ([], next)
  | x :: xs, step, next =>
    let (y, next) := step x List.mem_cons_self next
    let (ys, next) := threaded xs (fun z h => step z (List.mem_cons_of_mem _ h)) next
    (y :: ys, next)

/-- Numbers the loops of a tree from `next` on; the second result is the first number not taken. -/
def Node.numberFrom (n : Node) (next : Nat) : Node × Nat :=
  let start := if n.loop?.isSome then next + 1 else next
  let (cs, after) := threaded n.children (fun c _ next => c.numberFrom next) start
  ((n.withLoopId next).withChildren cs, after)
termination_by n
decreasing_by exact sizeOf_lt_of_mem_children ‹_›

/-- Numbers the loops of a tree. -/
def Node.number (n : Node) : Node :=
  (n.numberFrom 0).1

end LoopBound.Syntax
