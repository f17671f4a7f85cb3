import LoopBound.Syntax.Slots

/-!
# Rewriting a tree

A rewriting says for every node what takes its place: nothing, a list of nodes, or one node. In a
list the replacement is spliced in. A slot for one node always keeps one: it keeps the old node
where nothing should take its place, and a list that is not of length one becomes a block there.
What takes a place is not rewritten again.
-/

namespace LoopBound.Syntax

/-- What takes the place of a node. -/
inductive Replacement where
  | delete
  | splice (ns : List Node)
  | become (n : Node)

namespace Replacement

/-- The replacement in a slot for one node, which held `old`. -/
def single (old : Node) : Replacement → Node
  | delete => old
  | splice [n] => n
  | splice ns => .blockStatement ns old.loc
  | become n => n

/-- The replacement in a list. -/
def items : Replacement → List Node
  | delete => []
  | splice ns => ns
  | become n => [n]

end Replacement

/-- What takes the place of a node, given the node above it, the node itself, and the node with the
nodes below it rewritten. -/
abbrev Rewriting := Option Node → Node → Node → Replacement

/-- Rewrites a node and what is below it. -/
def Rewriting.run (f : Rewriting) (parent : Option Node) (n : Node) : Replacement :=
  f parent n (n.withSlots (n.slots.attach.map fun ⟨s, _⟩ =>
    s.mapMem (fun c _ => (run f (some n) c).single c) (fun c _ => (run f (some n) c).items)))
termination_by n
decreasing_by all_goals exact Node.sizeOf_lt_of_mem_slot ‹_› ‹_›

/-- Rewrites a whole tree; the root stays one node. -/
def Rewriting.apply (f : Rewriting) (root : Node) : Node :=
  (f.run none root).single root

theorem Rewriting.run_eq (f : Rewriting) (parent : Option Node) (n : Node) :
    f.run parent n = f parent n (n.withSlots (n.slots.map
      (Slot.map (fun c => (f.run (some n) c).single c) fun c => (f.run (some n) c).items))) := by
  rw [run]
  congr 2
  conv => rhs; rw [← List.attach_map_subtype_val n.slots, List.map_map]
  congr 1
  funext ⟨s, hs⟩
  exact Slot.mapMem_eq_map s _ _

end LoopBound.Syntax
