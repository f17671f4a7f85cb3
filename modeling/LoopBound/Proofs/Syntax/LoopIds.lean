import LoopBound.Proofs.Syntax.Shape
import LoopBound.Syntax.Numbering
import Mathlib.Data.List.Nodup

/-!
# The numbers of loops

Numbering a tree gives its loops the numbers 0, 1, 2, … in the order of the walk. So no two loops of
a tree share a number, and a number picks out at most one node: this is what lets a rewriting speak
of "the loop with this number".
-/

namespace LoopBound.Syntax

/-! ## Refilling slots -/

theorem refillSparse_eq (os : List (Option Node)) (cs rest : List Node)
    (h : cs.length = (os.filterMap id).length) :
    (refillSparse os (cs ++ rest)).1.filterMap id = cs ∧ (refillSparse os (cs ++ rest)).2 = rest := by
  induction os generalizing cs with
  | nil =>
    have hcs : cs = [] := List.eq_nil_of_length_eq_zero h
    subst hcs
    exact ⟨rfl, rfl⟩
  | cons o os ih =>
    cases o with
    | none => exact ih cs h
    | some n =>
      cases cs with
      | nil => simp at h
      | cons c cs =>
        obtain ⟨h1, h2⟩ := ih cs (by simpa using h)
        refine ⟨?_, h2⟩
        show c :: (refillSparse os (cs ++ rest)).1.filterMap id = c :: cs
        rw [h1]

theorem Slot.refill_eq (s : Slot) (cs rest : List Node) (h : cs.length = s.nodes.length) :
    (s.refill (cs ++ rest)).1.nodes = cs ∧ (s.refill (cs ++ rest)).1.shape = s.shape
      ∧ (s.refill (cs ++ rest)).2 = rest := by
  cases s with
  | one n =>
    obtain ⟨c, rfl⟩ := List.length_eq_one_iff.1 h
    exact ⟨rfl, rfl, rfl⟩
  | maybe n =>
    cases n with
    | none =>
      have hcs : cs = [] := List.eq_nil_of_length_eq_zero h
      subst hcs
      exact ⟨rfl, rfl, rfl⟩
    | some n =>
      obtain ⟨c, rfl⟩ := List.length_eq_one_iff.1 h
      exact ⟨rfl, rfl, rfl⟩
  | many ns =>
    have hlen : ns.length = cs.length := h.symm
    refine ⟨?_, rfl, ?_⟩
    · simp only [Slot.refill, Slot.nodes, hlen, List.take_left]
    · simp only [Slot.refill, hlen, List.drop_left]
  | sparse ns =>
    obtain ⟨h1, h2⟩ := refillSparse_eq ns cs rest h
    exact ⟨h1, rfl, h2⟩

theorem refillSlots_eq (ss : List Slot) (cs : List Node)
    (h : cs.length = (ss.flatMap Slot.nodes).length) :
    (refillSlots ss cs).flatMap Slot.nodes = cs
      ∧ (refillSlots ss cs).map Slot.shape = ss.map Slot.shape := by
  induction ss generalizing cs with
  | nil =>
    have hcs : cs = [] := List.eq_nil_of_length_eq_zero h
    subst hcs
    exact ⟨rfl, rfl⟩
  | cons s ss ih =>
    rw [List.flatMap_cons, List.length_append] at h
    -- the first slot takes as many nodes as it held
    have hsplit : cs = cs.take s.nodes.length ++ cs.drop s.nodes.length :=
      (List.take_append_drop _ _).symm
    have htake : (cs.take s.nodes.length).length = s.nodes.length := by
      rw [List.length_take]
      omega
    obtain ⟨h1, h2, h3⟩ := s.refill_eq _ (cs.drop s.nodes.length) htake
    rw [← hsplit] at h1 h2 h3
    have hrest : (cs.drop s.nodes.length).length = (ss.flatMap Slot.nodes).length := by
      rw [List.length_drop]
      omega
    obtain ⟨h4, h5⟩ := ih _ hrest
    have hcons : refillSlots (s :: ss) cs
        = (s.refill cs).1 :: refillSlots ss (s.refill cs).2 := rfl
    rw [hcons, h3]
    constructor
    · rw [List.flatMap_cons, h1, h4, ← hsplit]
    · rw [List.map_cons, h2, h5, List.map_cons]

theorem exists_of_mem_forall₂ {α β : Type} {R : α → β → Prop} {xs : List α} {ys : List β} {y : β}
    (h : List.Forall₂ R xs ys) (hy : y ∈ ys) : ∃ x ∈ xs, R x y := by
  induction h with
  | nil => simp at hy
  | cons hr _ ih =>
    rcases List.mem_cons.1 hy with rfl | hy
    · exact ⟨_, List.mem_cons_self, hr⟩
    · obtain ⟨x, hx, hr⟩ := ih hy
      exact ⟨x, List.mem_cons_of_mem _ hx, hr⟩

/-- Slots filled with nodes that are related to the old ones, one by one, are related slot by
slot. -/
theorem refillSlots_forall₂ {R : Node → Node → Prop} (ss : List Slot) (cs : List Node)
    (h : List.Forall₂ R (ss.flatMap Slot.nodes) cs) :
    List.Forall₂ (fun s s' => s'.shape = s.shape ∧ List.Forall₂ R s.nodes s'.nodes) ss
      (refillSlots ss cs) := by
  induction ss generalizing cs with
  | nil => exact List.Forall₂.nil
  | cons s ss ih =>
    have hlen := h.length_eq
    rw [List.flatMap_cons] at h hlen
    rw [List.length_append] at hlen
    have hsplit : cs = cs.take s.nodes.length ++ cs.drop s.nodes.length :=
      (List.take_append_drop _ _).symm
    have htake : (cs.take s.nodes.length).length = s.nodes.length := by
      rw [List.length_take]
      omega
    obtain ⟨h1, h2, h3⟩ := s.refill_eq _ (cs.drop s.nodes.length) htake
    rw [← hsplit] at h1 h2 h3
    have hfirst := List.forall₂_take s.nodes.length h
    have hrest := List.forall₂_drop s.nodes.length h
    rw [List.take_left] at hfirst
    rw [List.drop_left] at hrest
    have hcons : refillSlots (s :: ss) cs
        = (s.refill cs).1 :: refillSlots ss (s.refill cs).2 := rfl
    rw [hcons, h3]
    exact List.Forall₂.cons ⟨h2, by rw [h1]; exact hfirst⟩ (ih _ hrest)

namespace Node

theorem children_withChildren {n : Node} {cs : List Node} (h : cs.length = n.children.length) :
    (n.withChildren cs).children = cs := by
  obtain ⟨h1, h2⟩ := refillSlots_eq n.slots cs h
  rw [withChildren, children_withSlots h2, h1]

theorem loopId?_head (n : Node) : n.head.loopId? = n.loopId? := by
  cases n <;> rfl

theorem loopId?_withSlots {n : Node} {ss : List Slot}
    (h : ss.map Slot.shape = n.slots.map Slot.shape) : (n.withSlots ss).loopId? = n.loopId? := by
  rw [← loopId?_head, head_withSlots h, loopId?_head]

theorem loopId?_withChildren {n : Node} {cs : List Node} (h : cs.length = n.children.length) :
    (n.withChildren cs).loopId? = n.loopId? :=
  loopId?_withSlots (refillSlots_eq n.slots cs h).2

@[simp]
theorem children_withLoopId (n : Node) (k : LoopId) : (n.withLoopId k).children = n.children := by
  cases n <;> rfl

theorem loopId?_withLoopId (n : Node) (k : LoopId) :
    (n.withLoopId k).loopId? = n.loopId?.map fun _ => k := by
  cases n <;> rfl

/-! ## Numbering -/

/-- Numbers the trees of a list one after another. -/
def numberAll : List Node → Nat → List Node × Nat
  | [], k => ([], k)
  | n :: ns, k =>
    let (m, k) := n.numberFrom k
    let (ms, k) := numberAll ns k
    (m :: ms, k)

theorem threaded_eq_numberAll (ns : List Node) (k : Nat) :
    threaded ns (fun c _ next => c.numberFrom next) k = numberAll ns k := by
  induction ns generalizing k with
  | nil => rfl
  | cons n ns ih =>
    rw [threaded, numberAll]
    simp only
    rw [ih]

/-- The number of the first loop below a node. -/
def firstBelow (n : Node) (k : Nat) : Nat :=
  if n.loop?.isSome then k + 1 else k

theorem numberFrom_eq (n : Node) (k : Nat) : n.numberFrom k
    = ((n.withLoopId k).withChildren (numberAll n.children (n.firstBelow k)).1,
      (numberAll n.children (n.firstBelow k)).2) := by
  rw [numberFrom, ← threaded_eq_numberAll]
  rfl

/-- The numbers of the loops in a tree, in the order of the walk. -/
def loopIds (n : Node) : List LoopId :=
  n.preorder.filterMap loopId?

theorem loopIds_eq (n : Node) : n.loopIds = n.loopId?.toList ++ n.children.flatMap loopIds := by
  rw [loopIds, preorder_eq, List.filterMap_cons, List.filterMap_flatMap]
  cases n.loopId? <;> rfl

theorem mem_loopIds_of_mem_children {n c : Node} {k : LoopId} (hc : c ∈ n.children)
    (hk : k ∈ c.loopIds) : k ∈ n.loopIds := by
  rw [loopIds_eq]
  exact List.mem_append_right _ (List.mem_flatMap.2 ⟨c, hc, hk⟩)

/-- Where every tree of a list gets a run of numbers, the list gets one run. -/
theorem numberAll_loopIds {ns : List Node}
    (h : ∀ n ∈ ns, ∀ k, (n.numberFrom k).1.loopIds = List.range' k n.loopIds.length
      ∧ (n.numberFrom k).2 = k + n.loopIds.length) (k : Nat) :
    (numberAll ns k).1.length = ns.length
      ∧ (numberAll ns k).1.flatMap loopIds = List.range' k (ns.flatMap loopIds).length
      ∧ (numberAll ns k).2 = k + (ns.flatMap loopIds).length := by
  induction ns generalizing k with
  | nil => exact ⟨rfl, rfl, rfl⟩
  | cons n ns ih =>
    obtain ⟨h1, h2⟩ := h n List.mem_cons_self k
    obtain ⟨h3, h4, h5⟩ := ih (fun m hm => h m (List.mem_cons_of_mem _ hm)) (n.numberFrom k).2
    rw [numberAll]
    simp only [List.length_cons, List.flatMap_cons, List.length_append]
    refine ⟨by rw [h3], ?_, ?_⟩
    · rw [h1, h4, h2, List.range'_append_1]
    · rw [h5, h2]
      omega

theorem numberFrom_loopIds (n : Node) (k : Nat) :
    (n.numberFrom k).1.loopIds = List.range' k n.loopIds.length
      ∧ (n.numberFrom k).2 = k + n.loopIds.length := by
  induction n using induction_children generalizing k with
  | h n ih =>
    obtain ⟨h1, h2, h3⟩ := numberAll_loopIds ih (n.firstBelow k)
    have hlen : (numberAll n.children (n.firstBelow k)).1.length
        = (n.withLoopId k).children.length := by
      rw [h1, children_withLoopId]
    rw [numberFrom_eq]
    simp only
    rw [loopIds_eq, children_withChildren hlen, loopId?_withChildren hlen, loopId?_withLoopId, h2, h3,
      loopIds_eq n, firstBelow]
    unfold loopId?
    cases n.loop? with
    | none => exact ⟨by simp, by simp⟩
    | some l =>
      simp only [Option.isSome_some, if_true, Option.map_some, Option.toList_some,
        List.singleton_append, List.length_cons]
      refine ⟨?_, by omega⟩
      rw [List.range'_succ]

theorem numberAll_forall₂ (ns : List Node) (k : Nat) :
    List.Forall₂ (fun n n' => ∃ j, n' = (n.numberFrom j).1) ns (numberAll ns k).1 := by
  induction ns generalizing k with
  | nil => exact List.Forall₂.nil
  | cons n ns ih => exact List.Forall₂.cons ⟨k, rfl⟩ (ih (n.numberFrom k).2)

/-- Numbering changes the number of a node and numbers the nodes in its slots. -/
theorem numberFrom_slots (n : Node) (k : Nat) : ∃ ss,
    (n.numberFrom k).1 = (n.withLoopId k).withSlots ss
      ∧ ss.map Slot.shape = (n.withLoopId k).slots.map Slot.shape
      ∧ List.Forall₂ (fun s s' => s'.shape = s.shape
          ∧ List.Forall₂ (fun c c' => ∃ j, c' = (c.numberFrom j).1) s.nodes s'.nodes) n.slots ss := by
  have hslots : (n.withLoopId k).slots = n.slots := by
    cases n <;> rfl
  have hrel := numberAll_forall₂ n.children (n.firstBelow k)
  refine ⟨_, by rw [numberFrom_eq]; rfl, ?_, ?_⟩
  · refine (refillSlots_eq _ _ ?_).2
    rw [hslots]
    exact hrel.length_eq.symm
  · rw [hslots]
    exact refillSlots_forall₂ _ _ hrel

/-- The loops of a numbered tree are numbered from 0 on in the order of the walk. -/
theorem number_loopIds (n : Node) : n.number.loopIds = List.range' 0 n.loopIds.length :=
  (numberFrom_loopIds n 0).1

/-- No two loops of the tree share a number. -/
def DistinctLoops (n : Node) : Prop :=
  n.loopIds.Nodup

theorem distinctLoops_number (n : Node) : n.number.DistinctLoops := by
  rw [DistinctLoops, number_loopIds]
  exact List.nodup_range'

end Node

end LoopBound.Syntax
