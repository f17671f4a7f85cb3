import LoopBound.Proofs.Guard.Rounds
import LoopBound.Proofs.Text.Position

/-!
# Where loops begin

The search for loops goes through a tree in the order of the walk and reports the place of each loop.
If no node begins before the node above it, no loop of a tree begins before the tree. Numbering the
loops moves nothing.
-/

namespace LoopBound.Guard

open LoopBound.Syntax
open LoopBound.Text (Position)

/-- Nothing in the tree begins before the node that it stands in. -/
def Nested (n : Node) : Prop :=
  ∀ d ∈ n.preorder, ∀ c ∈ d.children, d.loc ≤ c.loc

theorem nested_iff (n : Node) : Nested n ↔ ∀ c ∈ n.children, n.loc ≤ c.loc ∧ Nested c := by
  rw [Nested, n.forall_preorder_iff]
  constructor
  · rintro ⟨hn, hbelow⟩ c hc
    exact ⟨hn c hc, hbelow c hc⟩
  · intro h
    exact ⟨fun c hc => (h c hc).1, fun c hc => (h c hc).2⟩

/-- Nothing in such a tree begins before the tree. -/
theorem start_le_of_nested {n : Node} (h : Nested n) {a : Position} (ha : a ≤ n.loc) :
    ∀ d ∈ n.preorder, a ≤ d.loc := by
  induction n using Node.induction_children with
  | h n ih =>
    rw [nested_iff] at h
    rw [n.forall_preorder_iff]
    exact ⟨ha, fun c hc => ih c hc (h c hc).2 (ha.trans (h c hc).1)⟩

/-- A loop as it is reported: its kind, and where it begins. -/
abbrev LoopPlace := LoopKind × Position

/-- The place of a loop. -/
def LoopHead.place (l : LoopHead) : LoopPlace :=
  (l.kind, l.position)

/-- The place of a node that is a loop. -/
def loopPlace? (n : Node) : Option LoopPlace :=
  (loopHead? n).map LoopHead.place

/-- The places of the loops of a tree, in the order of the walk. -/
def loopPlaces (n : Node) : List LoopPlace :=
  (loopHeads n).map LoopHead.place

theorem loopPlaces_eq (n : Node) :
    loopPlaces n = (loopPlace? n).toList ++ n.children.flatMap loopPlaces := by
  rw [loopPlaces, loopHeads_eq, List.map_append, List.map_flatMap, loopPlace?]
  cases loopHead? n <;> rfl

theorem loopPlace?_of_none {n : Node} (h : n.loop? = none) : loopPlace? n = none := by
  rw [loopPlace?, loopHead?, h]
  rfl

theorem loopPlace?_of_some {n : Node} {l : Loop} (h : n.loop? = some l) :
    loopPlace? n = some (l.kind, n.loc) := by
  rw [loopPlace?, loopHead?, h]
  rfl

theorem loopPlaces_of_none {n : Node} (h : n.loop? = none) :
    loopPlaces n = n.children.flatMap loopPlaces := by
  rw [loopPlaces_eq, loopPlace?_of_none h]
  rfl

theorem loopPlaces_of_some {n : Node} {l : Loop} (h : n.loop? = some l) :
    loopPlaces n = (l.kind, n.loc) :: n.children.flatMap loopPlaces := by
  rw [loopPlaces_eq, loopPlace?_of_some h]
  rfl

/-- The search reports the places of the loops of enabled kinds. -/
theorem locate_places (root : Node) (kinds : List LoopKind) (c : Context) :
    (locate root kinds c).1.map (fun l => (l.kind, l.position))
      = (loopPlaces root).filter (·.1 ∈ kinds) := by
  have hheads := congrArg (List.map LoopHead.place) (locate_heads root kinds c)
  rw [List.map_map] at hheads
  rw [loopPlaces, List.filter_map]
  exact hheads

/-! ## Numbering -/

theorem loc_numberFrom (n : Node) (k : Nat) : (n.numberFrom k).1.loc = n.loc := by
  obtain ⟨ss, he, hshape, -⟩ := n.numberFrom_slots k
  rw [he, Node.loc_withSlots hshape]
  cases n <;> rfl

theorem children_numberFrom (n : Node) (k : Nat) :
    List.Forall₂ (fun c c' => ∃ j, c' = (c.numberFrom j).1) n.children
      (n.numberFrom k).1.children := by
  have hbelow := Node.numberAll_forall₂ n.children (n.firstBelow k)
  rw [Node.numberFrom_eq, Node.children_withChildren]
  · exact hbelow
  · rw [Node.children_withLoopId]
    exact hbelow.length_eq.symm

theorem loopKind?_head (n : Node) : n.head.loop?.map (·.kind) = n.loop?.map (·.kind) := by
  cases n <;> rfl

theorem loopKind?_numberFrom (n : Node) (k : Nat) :
    (n.numberFrom k).1.loop?.map (·.kind) = n.loop?.map (·.kind) := by
  obtain ⟨ss, he, hshape, -⟩ := n.numberFrom_slots k
  rw [he, ← loopKind?_head, Node.head_withSlots hshape, loopKind?_head]
  cases n <;> rfl

theorem loopPlace?_eq (n : Node) : loopPlace? n = (n.loop?.map (·.kind)).map (·, n.loc) := by
  rw [loopPlace?, loopHead?, Option.map_map, Option.map_map]
  rfl

/-- Numbering the loops does not move them. -/
theorem loopPlaces_numberFrom (n : Node) (k : Nat) :
    loopPlaces (n.numberFrom k).1 = loopPlaces n := by
  induction n using Node.induction_children generalizing k with
  | h n ih =>
    have hbelow : ∀ {cs cs' : List Node},
        List.Forall₂ (fun c c' => ∃ j, c' = (c.numberFrom j).1) cs cs' →
        (∀ c ∈ cs, c ∈ n.children) → cs'.flatMap loopPlaces = cs.flatMap loopPlaces := by
      intro cs cs' h hcs
      induction h with
      | nil => rfl
      | cons hc _ ihcs =>
        obtain ⟨j, rfl⟩ := hc
        rw [List.flatMap_cons, List.flatMap_cons, ih _ (hcs _ List.mem_cons_self),
          ihcs fun c hc => hcs c (List.mem_cons_of_mem _ hc)]
    rw [loopPlaces_eq, loopPlaces_eq n, loopPlace?_eq, loopPlace?_eq, loopKind?_numberFrom,
      loc_numberFrom, hbelow (children_numberFrom n k) fun c hc => hc]

theorem nested_numberFrom {n : Node} (h : Nested n) (k : Nat) : Nested (n.numberFrom k).1 := by
  induction n using Node.induction_children generalizing k with
  | h n ih =>
    rw [nested_iff] at h ⊢
    intro c' hc'
    obtain ⟨c, hc, j, rfl⟩ := exists_of_mem_forall₂ (children_numberFrom n k) hc'
    obtain ⟨hle, hnested⟩ := h c hc
    rw [loc_numberFrom, loc_numberFrom]
    exact ⟨hle, ih c hc hnested j⟩

end LoopBound.Guard
