import LoopBound.Syntax.Slots
import Mathlib.Algebra.Ring.Nat
import Mathlib.Data.List.Basic

/-!
# Putting slots back

The laws of `withSlots` that rewritings need: slots of the same shape can be put into a node and are
then its slots, and a later change of the slots forgets an earlier one. With them a proof about a
rewriting speaks of slots, and no case is needed for every kind of node.
-/

namespace LoopBound.Syntax

/-- What a slot can hold. -/
inductive SlotShape where
  | one | maybe | many | sparse
  deriving DecidableEq, Repr

/-- A slot of the shape that holds as little as it can. -/
def SlotShape.cleared : SlotShape → Slot
  | .one => .one (.program [] {})
  | .maybe => .maybe none
  | .many => .many []
  | .sparse => .sparse []

namespace Slot

/-- What the slot can hold. -/
def shape : Slot → SlotShape
  | one _ => .one
  | maybe _ => .maybe
  | many _ => .many
  | sparse _ => .sparse

/-- The slot with as little in it as it can hold. -/
def cleared (s : Slot) : Slot :=
  s.shape.cleared

theorem cleared_eq (s : Slot) : s.cleared = s.shape.cleared := rfl

theorem shape_cleared (s : Slot) : s.cleared.shape = s.shape := by
  cases s <;> rfl

theorem shape_one (n : Node) : (one n).shape = .one := rfl

theorem shape_maybe (n : Option Node) : (maybe n).shape = .maybe := rfl

theorem shape_many (ns : List Node) : (many ns).shape = .many := rfl

theorem shape_sparse (ns : List (Option Node)) : (sparse ns).shape = .sparse := rfl

theorem shape_eq_one {s : Slot} : s.shape = .one ↔ ∃ n, s = one n := by
  cases s <;> simp [shape]

theorem shape_eq_maybe {s : Slot} : s.shape = .maybe ↔ ∃ n, s = maybe n := by
  cases s <;> simp [shape]

theorem shape_eq_many {s : Slot} : s.shape = .many ↔ ∃ ns, s = many ns := by
  cases s <;> simp [shape]

theorem shape_eq_sparse {s : Slot} : s.shape = .sparse ↔ ∃ ns, s = sparse ns := by
  cases s <;> simp [shape]

@[simp]
theorem shape_map (s : Slot) (single : Node → Node) (splice : Node → List Node) :
    (s.map single splice).shape = s.shape := by
  cases s <;> rfl

/-- A change of a slot after a change of it is one change. -/
theorem map_map (s : Slot) (single single' : Node → Node) (splice splice' : Node → List Node) :
    (s.map single splice).map single' splice'
      = s.map (fun c => single' (single c)) fun c => (splice c).flatMap splice' := by
  cases s with
  | one n => rfl
  | maybe n => cases n <;> rfl
  | many ns => simp [map, List.flatMap_assoc]
  | sparse ns =>
    simp only [map, List.flatMap_assoc]
    congr 2
    funext o
    cases o with
    | none => rfl
    | some n => simp [List.flatMap_map, List.map_flatMap]

/-- Two changes that agree on the nodes of a slot change it alike. -/
theorem map_congr {s : Slot} {single single' : Node → Node} {splice splice' : Node → List Node}
    (h : ∀ c ∈ s.nodes, single c = single' c ∧ splice c = splice' c) :
    s.map single splice = s.map single' splice' := by
  cases s with
  | one n => simp only [map, (h n (by simp [nodes])).1]
  | maybe n =>
    cases n with
    | none => rfl
    | some n => simp only [map, Option.map_some, (h n (by simp [nodes])).1]
  | many ns =>
    simp only [map, many.injEq]
    have hall : ∀ c ∈ ns, splice c = splice' c := fun c hc => (h c hc).2
    clear h
    induction ns with
    | nil => rfl
    | cons n ns ih =>
      rw [List.flatMap_cons, List.flatMap_cons, hall n List.mem_cons_self,
        ih fun c hc => hall c (List.mem_cons_of_mem _ hc)]
  | sparse ns =>
    simp only [map, sparse.injEq]
    have hall : ∀ c, some c ∈ ns → splice c = splice' c := fun c hc =>
      (h c (List.mem_filterMap.2 ⟨some c, hc, rfl⟩)).2
    clear h
    induction ns with
    | nil => rfl
    | cons o ns ih =>
      rw [List.flatMap_cons, List.flatMap_cons,
        ih fun c hc => hall c (List.mem_cons_of_mem _ hc)]
      cases o with
      | none => rfl
      | some n =>
        congr 1
        exact congrArg _ (hall n List.mem_cons_self)

/-- What is collected from a slot after a change, in terms of the nodes before it. -/
theorem flatMap_nodes_map {α : Type} {s : Slot} {single : Node → Node} {splice : Node → List Node}
    {f g : Node → List α}
    (h : ∀ c ∈ s.nodes, f (single c) = g c ∧ (splice c).flatMap f = g c) :
    (s.map single splice).nodes.flatMap f = s.nodes.flatMap g := by
  cases s with
  | one n => simpa [map, nodes] using (h n (by simp [nodes])).1
  | maybe n =>
    cases n with
    | none => rfl
    | some n => simpa [map, nodes] using (h n (by simp [nodes])).1
  | many ns =>
    simp only [map, nodes, List.flatMap_assoc]
    exact List.flatMap_congr fun c hc => (h c hc).2
  | sparse ns =>
    have hall : ∀ c, some c ∈ ns → (splice c).flatMap f = g c := fun c hc =>
      (h c (List.mem_filterMap.2 ⟨some c, hc, rfl⟩)).2
    simp only [map, nodes]
    clear h
    induction ns with
    | nil => rfl
    | cons o ns ih =>
      rw [List.flatMap_cons, List.filterMap_append, List.flatMap_append,
        ih fun c hc => hall c (List.mem_cons_of_mem _ hc)]
      cases o with
      | none => rfl
      | some n =>
        have hback : ((splice n).map some).filterMap id = splice n := by
          rw [List.filterMap_map]
          exact List.filterMap_some
        show (((splice n).map some).filterMap id).flatMap f ++ _
          = g n ++ (ns.filterMap id).flatMap g
        rw [hback, hall n List.mem_cons_self]

/-- A change that puts every node back changes nothing. -/
theorem map_id (s : Slot) : s.map (fun c => c) (fun c => [c]) = s := by
  cases s with
  | one n => rfl
  | maybe n => cases n <;> rfl
  | many ns => simp [map]
  | sparse ns =>
    simp only [map, sparse.injEq]
    induction ns with
    | nil => rfl
    | cons o ns ih =>
      rw [List.flatMap_cons, ih]
      cases o <;> rfl

end Slot

namespace Node

/-- Slots of the right shapes become the slots of the node, and a later change of the slots forgets
an earlier one. -/
theorem withSlots_of_shape {n : Node} {ss ts : List Slot}
    (hs : ss.map Slot.shape = n.slots.map Slot.shape)
    (ht : ts.map Slot.shape = n.slots.map Slot.shape) :
    (n.withSlots ss).slots = ss ∧ (n.withSlots ss).withSlots ts = n.withSlots ts := by
  cases n <;>
    simp only [slots, List.map_cons, List.map_nil, Slot.shape_one, Slot.shape_maybe,
      Slot.shape_many, Slot.shape_sparse, List.map_eq_cons_iff, List.map_eq_nil_iff,
      Slot.shape_eq_one, Slot.shape_eq_maybe, Slot.shape_eq_many, Slot.shape_eq_sparse] at hs ht
  -- no node has more than four slots
  all_goals
    first
    | subst hs ht
      exact ⟨rfl, rfl⟩
    | obtain ⟨_, _, rfl, ⟨_, rfl⟩, rfl⟩ := hs
      obtain ⟨_, _, rfl, ⟨_, rfl⟩, rfl⟩ := ht
      exact ⟨rfl, rfl⟩
    | obtain ⟨_, _, rfl, ⟨_, rfl⟩, _, _, rfl, ⟨_, rfl⟩, rfl⟩ := hs
      obtain ⟨_, _, rfl, ⟨_, rfl⟩, _, _, rfl, ⟨_, rfl⟩, rfl⟩ := ht
      exact ⟨rfl, rfl⟩
    | obtain ⟨_, _, rfl, ⟨_, rfl⟩, _, _, rfl, ⟨_, rfl⟩, _, _, rfl, ⟨_, rfl⟩, rfl⟩ := hs
      obtain ⟨_, _, rfl, ⟨_, rfl⟩, _, _, rfl, ⟨_, rfl⟩, _, _, rfl, ⟨_, rfl⟩, rfl⟩ := ht
      exact ⟨rfl, rfl⟩
    | obtain ⟨_, _, rfl, ⟨_, rfl⟩, _, _, rfl, ⟨_, rfl⟩, _, _, rfl, ⟨_, rfl⟩, _, _, rfl, ⟨_, rfl⟩,
        rfl⟩ := hs
      obtain ⟨_, _, rfl, ⟨_, rfl⟩, _, _, rfl, ⟨_, rfl⟩, _, _, rfl, ⟨_, rfl⟩, _, _, rfl, ⟨_, rfl⟩,
        rfl⟩ := ht
      exact ⟨rfl, rfl⟩

theorem slots_withSlots {n : Node} {ss : List Slot}
    (h : ss.map Slot.shape = n.slots.map Slot.shape) : (n.withSlots ss).slots = ss :=
  (withSlots_of_shape h h).1

theorem withSlots_withSlots {n : Node} {ss ts : List Slot}
    (hs : ss.map Slot.shape = n.slots.map Slot.shape)
    (ht : ts.map Slot.shape = n.slots.map Slot.shape) :
    (n.withSlots ss).withSlots ts = n.withSlots ts :=
  (withSlots_of_shape hs ht).2

/-- The node without what is below it. Whatever can be read off a node alone can be read off its
head, and a change of the slots keeps the head. -/
def head (n : Node) : Node :=
  n.withSlots (n.slots.map Slot.cleared)

theorem map_shape_cleared (ss : List Slot) :
    (ss.map Slot.cleared).map Slot.shape = ss.map Slot.shape := by
  rw [List.map_map]
  exact List.map_congr_left fun s _ => Slot.shape_cleared s

theorem head_withSlots {n : Node} {ss : List Slot}
    (h : ss.map Slot.shape = n.slots.map Slot.shape) : (n.withSlots ss).head = n.head := by
  have hcleared : ss.map Slot.cleared = n.slots.map Slot.cleared := by
    have hss : ss.map Slot.cleared = (ss.map Slot.shape).map SlotShape.cleared := by
      rw [List.map_map]
      exact List.map_congr_left fun s _ => Slot.cleared_eq s
    have hns : n.slots.map Slot.cleared = (n.slots.map Slot.shape).map SlotShape.cleared := by
      rw [List.map_map]
      exact List.map_congr_left fun s _ => Slot.cleared_eq s
    rw [hss, hns, h]
  rw [head, slots_withSlots h, hcleared, withSlots_withSlots h (map_shape_cleared _)]
  rfl

theorem loc_head (n : Node) : n.head.loc = n.loc := by
  cases n <;> rfl

theorem loc_withSlots {n : Node} {ss : List Slot}
    (h : ss.map Slot.shape = n.slots.map Slot.shape) : (n.withSlots ss).loc = n.loc := by
  rw [← loc_head, head_withSlots h, loc_head]

/-- A change slot by slot keeps the shapes. -/
theorem map_shape_map (ss : List Slot) (single : Node → Node) (splice : Node → List Node) :
    (ss.map (Slot.map single splice)).map Slot.shape = ss.map Slot.shape := by
  rw [List.map_map]
  exact List.map_congr_left fun s _ => Slot.shape_map s single splice

theorem children_withSlots {n : Node} {ss : List Slot}
    (h : ss.map Slot.shape = n.slots.map Slot.shape) :
    (n.withSlots ss).children = ss.flatMap Slot.nodes := by
  rw [children, slots_withSlots h]

/-! ## Changing what is below -/

/-- The node with the nodes directly below it changed. -/
def mapBelow (single : Node → Node) (splice : Node → List Node) (n : Node) : Node :=
  n.withSlots (n.slots.map (Slot.map single splice))

theorem slots_mapBelow (single : Node → Node) (splice : Node → List Node) (n : Node) :
    (n.mapBelow single splice).slots = n.slots.map (Slot.map single splice) :=
  slots_withSlots_map n single splice

theorem head_mapBelow (single : Node → Node) (splice : Node → List Node) (n : Node) :
    (n.mapBelow single splice).head = n.head :=
  head_withSlots (map_shape_map _ _ _)

theorem loc_mapBelow (single : Node → Node) (splice : Node → List Node) (n : Node) :
    (n.mapBelow single splice).loc = n.loc :=
  loc_withSlots (map_shape_map _ _ _)

/-- Two changes one after the other are one change. -/
theorem mapBelow_mapBelow (single single' : Node → Node) (splice splice' : Node → List Node)
    (n : Node) : (n.mapBelow single splice).mapBelow single' splice'
      = n.mapBelow (fun c => single' (single c)) fun c => (splice c).flatMap splice' := by
  have hshape : ((n.slots.map (Slot.map single splice)).map (Slot.map single' splice')).map
      Slot.shape = n.slots.map Slot.shape := by
    rw [map_shape_map, map_shape_map]
  rw [mapBelow, slots_mapBelow, mapBelow, withSlots_withSlots (map_shape_map _ _ _) hshape,
    mapBelow, List.map_map]
  congr 2
  funext s
  exact Slot.map_map s single single' splice splice'

/-- Two changes that agree on the children change a node alike. -/
theorem mapBelow_congr {single single' : Node → Node} {splice splice' : Node → List Node} {n : Node}
    (h : ∀ c ∈ n.children, single c = single' c ∧ splice c = splice' c) :
    n.mapBelow single splice = n.mapBelow single' splice' := by
  unfold mapBelow
  congr 1
  refine List.map_congr_left fun s hs => Slot.map_congr fun c hc => ?_
  exact h c (List.mem_flatMap.2 ⟨s, hs, hc⟩)

/-- What is collected from the children after a change, in terms of the children before it. -/
theorem flatMap_children_mapBelow {α : Type} {single : Node → Node} {splice : Node → List Node}
    {n : Node} {f g : Node → List α}
    (h : ∀ c ∈ n.children, f (single c) = g c ∧ (splice c).flatMap f = g c) :
    (n.mapBelow single splice).children.flatMap f = n.children.flatMap g := by
  rw [children, slots_mapBelow, children, List.flatMap_assoc, List.flatMap_assoc, List.flatMap_map]
  refine List.flatMap_congr fun s hs => Slot.flatMap_nodes_map fun c hc => ?_
  exact h c (List.mem_flatMap.2 ⟨s, hs, hc⟩)

/-- The child stands in a list of the node. -/
def InList (n c : Node) : Prop :=
  (∃ cs, Slot.many cs ∈ n.slots ∧ c ∈ cs) ∨ ∃ cs, Slot.sparse cs ∈ n.slots ∧ c ∈ cs.filterMap id

theorem mem_children_mapBelow {single : Node → Node} {splice : Node → List Node} {n d : Node}
    (h : d ∈ (n.mapBelow single splice).children) :
    ∃ c ∈ n.children, d = single c ∨ (d ∈ splice c ∧ InList n c) := by
  rw [children, slots_mapBelow, List.flatMap_map] at h
  obtain ⟨s, hs, hd⟩ := List.mem_flatMap.1 h
  have hchild : ∀ c ∈ s.nodes, c ∈ n.children := fun c hc => List.mem_flatMap.2 ⟨s, hs, hc⟩
  cases s with
  | one c =>
    rw [Slot.map, Slot.nodes, List.mem_singleton] at hd
    exact ⟨c, hchild c (by simp [Slot.nodes]), Or.inl hd⟩
  | maybe c =>
    cases c with
    | none => simp [Slot.map, Slot.nodes] at hd
    | some c =>
      simp only [Slot.map, Slot.nodes, Option.map_some, Option.toList_some,
        List.mem_singleton] at hd
      exact ⟨c, hchild c (by simp [Slot.nodes]), Or.inl hd⟩
  | many cs =>
    obtain ⟨c, hc, hd⟩ := List.mem_flatMap.1 hd
    exact ⟨c, hchild c hc, Or.inr ⟨hd, Or.inl ⟨cs, hs, hc⟩⟩⟩
  | sparse cs =>
    simp only [Slot.map, Slot.nodes, List.mem_filterMap, List.mem_flatMap] at hd
    obtain ⟨o, ⟨e, he, ho⟩, hod⟩ := hd
    cases e with
    | none =>
      rw [List.mem_singleton] at ho
      subst ho
      simp at hod
    | some c =>
      obtain ⟨x, hx, rfl⟩ := List.mem_map.1 ho
      rw [id, Option.some.injEq] at hod
      subst hod
      have hc : c ∈ cs.filterMap id := List.mem_filterMap.2 ⟨some c, he, rfl⟩
      exact ⟨c, hchild c hc, Or.inr ⟨hx, Or.inr ⟨cs, hs, hc⟩⟩⟩

/-- What is added up over the children after a change, in terms of the children before it. -/
theorem sum_children_mapBelow {single : Node → Node} {splice : Node → List Node} {n : Node}
    {f g : Node → Nat} (h : ∀ c ∈ n.children, f (single c) = g c ∧ ((splice c).map f).sum = g c) :
    ((n.mapBelow single splice).children.map f).sum = (n.children.map g).sum := by
  -- a number is the length of a list of units
  have hunits : (n.mapBelow single splice).children.flatMap (fun c => List.replicate (f c) ())
      = n.children.flatMap fun c => List.replicate (g c) () := by
    refine flatMap_children_mapBelow fun c hc => ?_
    obtain ⟨hsingle, hsplice⟩ := h c hc
    refine ⟨by rw [hsingle], ?_⟩
    rw [List.eq_replicate_iff]
    exact ⟨by simpa [List.length_flatMap] using hsplice, fun _ _ => rfl⟩
  have hlength := congrArg List.length hunits
  simpa [List.length_flatMap] using hlength

/-- A change that puts every child back changes nothing. -/
theorem mapBelow_id {single : Node → Node} {splice : Node → List Node} {n : Node}
    (h : ∀ c ∈ n.children, single c = c ∧ splice c = [c]) : n.mapBelow single splice = n := by
  have hkeep : n.mapBelow single splice = n.mapBelow (fun c => c) fun c => [c] := mapBelow_congr h
  rw [hkeep, mapBelow, List.map_congr_left (g := fun s => s) (fun s _ => Slot.map_id s),
    List.map_id', withSlots_slots]

end Node

end LoopBound.Syntax
