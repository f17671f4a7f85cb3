import LoopBound.Proofs.Guard.Steps
import LoopBound.Proofs.Syntax.WellFormed

/-!
# Where loops stand

In a well-formed tree a loop (with its labels) never stands in a list of expressions, members or
cases; the only lists it stands in are lists of statements. The declaration of its guard can then be
put in front of it, or into a block that takes its place.

A loop is a statement, and so is a label with a loop behind it. So all there is to see is which lists
ask for statements.
-/

namespace LoopBound.Reading

open LoopBound.Syntax LoopBound.Guard

/-- The node is no loop, not even behind labels. -/
def Quiet (n : Node) : Prop :=
  loopBehind? n = none

/-- The node holds a list of statements. -/
@[simp]
def holdsStatements : Node → Bool
  | .program .. | .blockStatement .. | .switchCase .. => true
  | _ => false

/-- The lists of the node have no loops in them, unless they are lists of statements; and no label
is a loop. -/
structure QuietSlots (n : Node) : Prop where
  many : holdsStatements n = false → ∀ cs, .many cs ∈ n.slots → ∀ c ∈ cs, Quiet c
  sparse : ∀ cs, .sparse cs ∈ n.slots → ∀ c ∈ cs.filterMap id, Quiet c
  label : ∀ l body p, n = .labeledStatement l body p → Quiet l

/-- Loops stand in no lists but lists of statements. -/
def Placed (n : Node) : Prop :=
  ∀ d ∈ n.preorder, QuietSlots d

theorem placed_iff (n : Node) : Placed n ↔ QuietSlots n ∧ ∀ c ∈ n.children, Placed c :=
  n.forall_preorder_iff

theorem holdsStatements_head (n : Node) : holdsStatements n.head = holdsStatements n := by
  cases n <;> rfl

/-! ## What asks for a loop -/

/-- A loop, with labels or without, is a statement. -/
theorem category_of_loop {n : Node} (h : ¬Quiet n) : n.category = .statement := by
  cases n with
  | labeledStatement | forStatement | forInStatement | forOfStatement | whileStatement
  | doWhileStatement => rfl
  | _ => exact absurd (loopBehind?_of_not_labeled rfl) h

theorem quiet_of_admits {role : Role} {n : Node} (h : role.admits n = true)
    (hrole : role ≠ .statement) : Quiet n := by
  by_contra hloop
  exact hrole (role.eq_statement h (category_of_loop hloop))

/-- A list that asks for statements is that of a program, a block or a case. -/
theorem holdsStatements_of_role (n : Node) : List.Forall₂ (fun role s => role = .statement →
    (∀ cs, s = .many cs → holdsStatements n = true) ∧ ∀ cs, s ≠ .sparse cs) n.roles n.slots := by
  cases n <;> simp [Node.roles, Node.slots]

theorem quietSlots_of_fits {n : Node} (h : Fits n) : QuietSlots n := by
  have hboth := h.slots.mp (fun _ _ hadmits hlists => And.intro hadmits hlists)
    (holdsStatements_of_role n)
  refine ⟨fun hholds cs hcs c hc => ?_, fun cs hcs c hc => ?_, ?_⟩
  · obtain ⟨role, -, hadmits, hlists⟩ := exists_of_mem_forall₂ hboth hcs
    refine quiet_of_admits (hadmits c hc) fun hrole => ?_
    rw [(hlists hrole).1 cs rfl] at hholds
    cases hholds
  · obtain ⟨role, -, hadmits, hlists⟩ := exists_of_mem_forall₂ hboth hcs
    exact quiet_of_admits (hadmits c hc) fun hrole => (hlists hrole).2 cs rfl
  · rintro l body p rfl
    obtain ⟨hlabel, -⟩ := List.forall₂_cons.1 h.slots
    exact quiet_of_admits (hlabel l List.mem_cons_self) (by decide)

/-- **Loops are in their place in every well-formed tree.** -/
theorem placed_of_wellFormed {n : Node} (h : WellFormed n) : Placed n :=
  fun d hd => quietSlots_of_fits (h d hd)

end LoopBound.Reading
