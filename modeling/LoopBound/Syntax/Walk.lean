import LoopBound.Syntax.Slots

/-!
# Walking a tree

A walk enters a node, walks the nodes below it in source order, and leaves it. `preorder` is the
order in which nodes are entered: an outer node comes before the nodes inside it.
-/

namespace LoopBound.Syntax

/-- A step of a walk. -/
inductive Step where
  | enter (n : Node)
  | leave (n : Node)

/-- The step as a sign and the type of the node. -/
def Step.render : Step → String
  | .enter n => "+" ++ n.typeName
  | .leave n => "-" ++ n.typeName

namespace Node

/-- The steps of a walk. -/
def walk (n : Node) : List Step :=
  .enter n :: (n.children.attach.flatMap fun ⟨c, _⟩ => c.walk) ++ [.leave n]
termination_by n
decreasing_by exact sizeOf_lt_of_mem_children ‹_›

/-- A node and all nodes below it, outer before inner and earlier before later. -/
def preorder (n : Node) : List Node :=
  n :: n.children.attach.flatMap fun ⟨c, _⟩ => c.preorder
termination_by n
decreasing_by exact sizeOf_lt_of_mem_children ‹_›

theorem walk_eq (n : Node) : n.walk = .enter n :: n.children.flatMap walk ++ [.leave n] := by
  rw [walk]
  congr 2
  conv => rhs; rw [← List.attach_map_subtype_val n.children, List.flatMap_map]

theorem preorder_eq (n : Node) : n.preorder = n :: n.children.flatMap preorder := by
  rw [preorder]
  congr 1
  conv => rhs; rw [← List.attach_map_subtype_val n.children, List.flatMap_map]

theorem mem_preorder_self (n : Node) : n ∈ n.preorder := by
  rw [preorder_eq]; exact List.mem_cons_self

theorem mem_preorder_of_mem_children {n c d : Node} (hc : c ∈ n.children) (hd : d ∈ c.preorder) :
    d ∈ n.preorder := by
  rw [preorder_eq]
  exact List.mem_cons_of_mem _ (List.mem_flatMap.2 ⟨c, hc, hd⟩)

/-- What holds of all nodes of a tree holds of its root and of all nodes of the trees below. -/
theorem forall_preorder_iff {P : Node → Prop} (n : Node) :
    (∀ d ∈ n.preorder, P d) ↔ P n ∧ ∀ c ∈ n.children, ∀ d ∈ c.preorder, P d := by
  rw [preorder_eq]
  simp only [List.mem_cons, List.mem_flatMap, forall_eq_or_imp]
  refine and_congr_right fun _ => ⟨?_, ?_⟩
  · intro h c hc d hd
    exact h d ⟨c, hc, hd⟩
  · rintro h d ⟨c, hc, hd⟩
    exact h c hc d hd

end Node

end LoopBound.Syntax
