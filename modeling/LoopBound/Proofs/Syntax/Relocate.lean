import LoopBound.Proofs.Syntax.LoopIds

/-!
# Trees with other positions

`Node.relocate g` is the tree with every position `p` replaced by `g p` and nothing else changed. It
goes through the slots of a node, so it does not matter whether a tree is numbered before or after;
and two maps of positions that give one tree agree on all positions in it.
-/

namespace LoopBound.Syntax

open LoopBound.Text (Position)

mutual

/-- The tree with its positions changed. -/
def Node.relocate (g : Position → Position) : Node → Node
  | .program b p => .program (relocateAll g b) (g p)
  | .blockStatement b p => .blockStatement (relocateAll g b) (g p)
  | .emptyStatement p => .emptyStatement (g p)
  | .expressionStatement e p => .expressionStatement (e.relocate g) (g p)
  | .variableDeclarator i v p => .variableDeclarator (i.relocate g) (relocateMaybe g v) (g p)
  | .variableDeclaration k ds p => .variableDeclaration k (relocateAll g ds) (g p)
  | .functionDeclaration i ps b a s p =>
    .functionDeclaration (i.relocate g) (relocateAll g ps) (b.relocate g) a s (g p)
  | .classDeclaration i s b p =>
    .classDeclaration (i.relocate g) (relocateMaybe g s) (relocateAll g b) (g p)
  | .ifStatement t c a p => .ifStatement (t.relocate g) (c.relocate g) (relocateMaybe g a) (g p)
  | .returnStatement a p => .returnStatement (relocateMaybe g a) (g p)
  | .breakStatement l p => .breakStatement (relocateMaybe g l) (g p)
  | .continueStatement l p => .continueStatement (relocateMaybe g l) (g p)
  | .throwStatement a p => .throwStatement (a.relocate g) (g p)
  | .catchClause c b p => .catchClause (relocateMaybe g c) (b.relocate g) (g p)
  | .tryStatement b h f p =>
    .tryStatement (b.relocate g) (relocateMaybe g h) (relocateMaybe g f) (g p)
  | .switchCase t c p => .switchCase (relocateMaybe g t) (relocateAll g c) (g p)
  | .switchStatement d cs p => .switchStatement (d.relocate g) (relocateAll g cs) (g p)
  | .labeledStatement l b p => .labeledStatement (l.relocate g) (b.relocate g) (g p)
  | .debuggerStatement p => .debuggerStatement (g p)
  | .forStatement k i t u b p =>
    .forStatement k (relocateMaybe g i) (relocateMaybe g t) (relocateMaybe g u) (b.relocate g) (g p)
  | .forInStatement k l r b p =>
    .forInStatement k (l.relocate g) (r.relocate g) (b.relocate g) (g p)
  | .forOfStatement k l r b a p =>
    .forOfStatement k (l.relocate g) (r.relocate g) (b.relocate g) a (g p)
  | .whileStatement k t b p => .whileStatement k (t.relocate g) (b.relocate g) (g p)
  | .doWhileStatement k b t p => .doWhileStatement k (b.relocate g) (t.relocate g) (g p)
  | .identifier s p => .identifier s (g p)
  | .literal s k p => .literal s k (g p)
  | .templateLiteral q es p => .templateLiteral q (relocateAll g es) (g p)
  | .taggedTemplateExpression t q p =>
    .taggedTemplateExpression (t.relocate g) (q.relocate g) (g p)
  | .thisExpression p => .thisExpression (g p)
  | .super p => .super (g p)
  | .arrayExpression es p => .arrayExpression (relocateSparse g es) (g p)
  | .property k v kind c s m p =>
    .property (k.relocate g) (relocateMaybe g v) kind c s m (g p)
  | .objectExpression ps p => .objectExpression (relocateAll g ps) (g p)
  | .spreadElement a p => .spreadElement (a.relocate g) (g p)
  | .restElement a p => .restElement (a.relocate g) (g p)
  | .assignmentPattern l r p => .assignmentPattern (l.relocate g) (r.relocate g) (g p)
  | .arrayPattern es p => .arrayPattern (relocateSparse g es) (g p)
  | .objectPattern ps p => .objectPattern (relocateAll g ps) (g p)
  | .functionExpression i ps b a s p =>
    .functionExpression (relocateMaybe g i) (relocateAll g ps) (b.relocate g) a s (g p)
  | .arrowFunctionExpression ps b a p =>
    .arrowFunctionExpression (relocateAll g ps) (b.relocate g) a (g p)
  | .methodDefinition k v kind s c p =>
    .methodDefinition (k.relocate g) (v.relocate g) kind s c (g p)
  | .propertyDefinition k v s c p =>
    .propertyDefinition (k.relocate g) (relocateMaybe g v) s c (g p)
  | .classExpression i s b p =>
    .classExpression (relocateMaybe g i) (relocateMaybe g s) (relocateAll g b) (g p)
  | .unaryExpression o a p => .unaryExpression o (a.relocate g) (g p)
  | .updateExpression o a b p => .updateExpression o (a.relocate g) b (g p)
  | .awaitExpression a p => .awaitExpression (a.relocate g) (g p)
  | .yieldExpression a d p => .yieldExpression (relocateMaybe g a) d (g p)
  | .binaryExpression o l r p => .binaryExpression o (l.relocate g) (r.relocate g) (g p)
  | .conditionalExpression t c a p =>
    .conditionalExpression (t.relocate g) (c.relocate g) (a.relocate g) (g p)
  | .assignmentExpression o l r p => .assignmentExpression o (l.relocate g) (r.relocate g) (g p)
  | .sequenceExpression es p => .sequenceExpression (relocateAll g es) (g p)
  | .memberExpression o m c opt p => .memberExpression (o.relocate g) (m.relocate g) c opt (g p)
  | .callExpression c as opt p => .callExpression (c.relocate g) (relocateAll g as) opt (g p)
  | .newExpression c h as p => .newExpression (c.relocate g) h (relocateAll g as) (g p)
  | .parenthesizedExpression e p => .parenthesizedExpression (e.relocate g) (g p)

/-- `relocate` in a list. -/
def relocateAll (g : Position → Position) : List Node → List Node
  | [] => []
  | n :: ns => n.relocate g :: relocateAll g ns

/-- `relocate` where a node may be missing. -/
def relocateMaybe (g : Position → Position) : Option Node → Option Node
  | none => none
  | some n => some (n.relocate g)

/-- `relocate` in a list with holes. -/
def relocateSparse (g : Position → Position) : List (Option Node) → List (Option Node)
  | [] => []
  | o :: os => relocateMaybe g o :: relocateSparse g os

end

variable {g g' : Position → Position}

theorem relocateAll_eq (g : Position → Position) (ns : List Node) :
    relocateAll g ns = ns.map (Node.relocate g) := by
  induction ns with
  | nil => rfl
  | cons n ns ih => rw [relocateAll, ih, List.map_cons]

theorem relocateMaybe_eq (g : Position → Position) (o : Option Node) :
    relocateMaybe g o = o.map (Node.relocate g) := by
  cases o <;> rfl

theorem relocateSparse_eq (g : Position → Position) (os : List (Option Node)) :
    relocateSparse g os = os.map (Option.map (Node.relocate g)) := by
  induction os with
  | nil => rfl
  | cons o os ih => rw [relocateSparse, ih, relocateMaybe_eq, List.map_cons]

/-! ## Slots -/

/-- The slot with its trees relocated. -/
def Slot.relocate (g : Position → Position) : Slot → Slot
  | one n => one (n.relocate g)
  | maybe o => maybe (relocateMaybe g o)
  | many ns => many (relocateAll g ns)
  | sparse os => sparse (relocateSparse g os)

theorem Slot.shape_relocate (g : Position → Position) (s : Slot) :
    (s.relocate g).shape = s.shape := by
  cases s <;> rfl

theorem Slot.nodes_relocate (g : Position → Position) (s : Slot) :
    (s.relocate g).nodes = s.nodes.map (Node.relocate g) := by
  cases s with
  | one n => rfl
  | maybe o => cases o <;> rfl
  | many ns => exact relocateAll_eq g ns
  | sparse os =>
    rw [Slot.relocate, relocateSparse_eq, Slot.nodes, Slot.nodes, List.filterMap_map,
      List.map_filterMap]
    rfl

theorem Slot.relocate_eq_self (s : Slot) (h : ∀ c ∈ s.nodes, c.relocate g = c) :
    s.relocate g = s := by
  have hall : ∀ ns : List Node, (∀ c ∈ ns, c.relocate g = c) → relocateAll g ns = ns := by
    intro ns hns
    rw [relocateAll_eq]
    conv_rhs => rw [← List.map_id ns]
    exact List.map_congr_left hns
  cases s with
  | one n => exact congrArg one (h n List.mem_cons_self)
  | maybe o =>
    cases o with
    | none => rfl
    | some n => exact congrArg (fun n => maybe (some n)) (h n List.mem_cons_self)
  | many ns => exact congrArg many (hall ns h)
  | sparse os =>
    refine congrArg sparse ?_
    rw [relocateSparse_eq]
    conv_rhs => rw [← List.map_id os]
    refine List.map_congr_left fun o ho => ?_
    cases o with
    | none => rfl
    | some n => exact congrArg some (h n (List.mem_filterMap.2 ⟨some n, ho, rfl⟩))

theorem refillSparse_relocate (g : Position → Position) (os : List (Option Node))
    (cs : List Node) : refillSparse (relocateSparse g os) (cs.map (Node.relocate g))
      = (relocateSparse g (refillSparse os cs).1,
        (refillSparse os cs).2.map (Node.relocate g)) := by
  induction os generalizing cs with
  | nil => rfl
  | cons o os ih =>
    cases o with
    | none => simp only [relocateSparse, relocateMaybe, refillSparse, ih]
    | some n =>
      cases cs with
      | nil =>
        have hnil := ih []
        rw [List.map_nil] at hnil
        simp only [relocateSparse, relocateMaybe, refillSparse, List.map_nil, hnil]
      | cons c cs => simp only [relocateSparse, relocateMaybe, refillSparse, List.map_cons, ih]

theorem Slot.refill_relocate (g : Position → Position) (s : Slot) (cs : List Node) :
    (s.relocate g).refill (cs.map (Node.relocate g))
      = ((s.refill cs).1.relocate g, (s.refill cs).2.map (Node.relocate g)) := by
  cases s with
  | one n => cases cs <;> rfl
  | maybe o =>
    cases o with
    | none => rfl
    | some n => cases cs <;> rfl
  | many ns =>
    simp only [Slot.relocate, Slot.refill, relocateAll_eq, List.length_map, List.map_take,
      List.map_drop]
  | sparse os => simp only [Slot.relocate, Slot.refill, refillSparse_relocate]

theorem refillSlots_relocate (g : Position → Position) (ss : List Slot) (cs : List Node) :
    refillSlots (ss.map (Slot.relocate g)) (cs.map (Node.relocate g))
      = (refillSlots ss cs).map (Slot.relocate g) := by
  induction ss generalizing cs with
  | nil => rfl
  | cons s ss ih => simp only [List.map_cons, refillSlots, s.refill_relocate g cs, ih]

namespace Node

theorem loc_relocate (g : Position → Position) (n : Node) : (n.relocate g).loc = g n.loc := by
  cases n <;> rfl

theorem slots_relocate (g : Position → Position) (n : Node) :
    (n.relocate g).slots = n.slots.map (Slot.relocate g) := by
  cases n <;> rfl

theorem children_relocate (g : Position → Position) (n : Node) :
    (n.relocate g).children = n.children.map (relocate g) := by
  rw [children, slots_relocate, List.flatMap_map, children, List.map_flatMap]
  exact congrArg (List.flatMap · _) (funext (Slot.nodes_relocate g))

theorem relocate_withSlots {n : Node} {ss : List Slot}
    (hs : ss.map Slot.shape = n.slots.map Slot.shape) :
    (n.withSlots ss).relocate g = (n.relocate g).withSlots (ss.map (Slot.relocate g)) := by
  cases n <;>
    simp only [slots, List.map_cons, List.map_nil, Slot.shape_one, Slot.shape_maybe,
      Slot.shape_many, Slot.shape_sparse, List.map_eq_cons_iff, List.map_eq_nil_iff,
      Slot.shape_eq_one, Slot.shape_eq_maybe, Slot.shape_eq_many, Slot.shape_eq_sparse] at hs
  -- no node has more than four slots
  all_goals
    first
    | subst hs
      rfl
    | obtain ⟨_, _, rfl, ⟨_, rfl⟩, rfl⟩ := hs
      rfl
    | obtain ⟨_, _, rfl, ⟨_, rfl⟩, _, _, rfl, ⟨_, rfl⟩, rfl⟩ := hs
      rfl
    | obtain ⟨_, _, rfl, ⟨_, rfl⟩, _, _, rfl, ⟨_, rfl⟩, _, _, rfl, ⟨_, rfl⟩, rfl⟩ := hs
      rfl
    | obtain ⟨_, _, rfl, ⟨_, rfl⟩, _, _, rfl, ⟨_, rfl⟩, _, _, rfl, ⟨_, rfl⟩, _, _, rfl, ⟨_, rfl⟩,
        rfl⟩ := hs
      rfl

/-- The tree with the positions below its root changed. -/
def relocateBelow (g : Position → Position) (n : Node) : Node :=
  n.withSlots (n.slots.map (Slot.relocate g))

/-! ## Numbers -/

theorem relocate_withLoopId (g : Position → Position) (n : Node) (k : LoopId) :
    (n.withLoopId k).relocate g = (n.relocate g).withLoopId k := by
  cases n <;> rfl

theorem firstBelow_relocate (g : Position → Position) (n : Node) (k : Nat) :
    (n.relocate g).firstBelow k = n.firstBelow k := by
  cases n <;> rfl

theorem relocate_withChildren {n : Node} {cs : List Node} (h : cs.length = n.children.length) :
    (n.withChildren cs).relocate g = (n.relocate g).withChildren (cs.map (relocate g)) := by
  rw [withChildren, relocate_withSlots (refillSlots_eq n.slots cs h).2, withChildren,
    slots_relocate, refillSlots_relocate]

theorem numberAll_relocate {ns : List Node} (h : ∀ n ∈ ns, ∀ k, (n.relocate g).numberFrom k
    = ((n.numberFrom k).1.relocate g, (n.numberFrom k).2)) (k : Nat) :
    numberAll (ns.map (relocate g)) k
      = ((numberAll ns k).1.map (relocate g), (numberAll ns k).2) := by
  induction ns generalizing k with
  | nil => rfl
  | cons n ns ih =>
    have hrest := ih (fun m hm => h m (List.mem_cons_of_mem _ hm)) (n.numberFrom k).2
    simp only [List.map_cons, numberAll, h n List.mem_cons_self, hrest]

/-- A tree is numbered alike wherever it stands. -/
theorem numberFrom_relocate (g : Position → Position) (n : Node) (k : Nat) :
    (n.relocate g).numberFrom k = ((n.numberFrom k).1.relocate g, (n.numberFrom k).2) := by
  induction n using induction_children generalizing k with
  | h n ih =>
    have hlength : (numberAll n.children (n.firstBelow k)).1.length
        = (n.withLoopId k).children.length := by
      rw [children_withLoopId]
      exact (numberAll_forall₂ n.children (n.firstBelow k)).length_eq.symm
    rw [numberFrom_eq, numberFrom_eq n, children_relocate, firstBelow_relocate,
      numberAll_relocate ih, ← relocate_withLoopId, relocate_withChildren hlength]

/-! ## Below the root -/

theorem shape_slots_relocate (g : Position → Position) (n : Node) :
    (n.slots.map (Slot.relocate g)).map Slot.shape = n.slots.map Slot.shape := by
  rw [List.map_map]
  exact List.map_congr_left fun s _ => Slot.shape_relocate g s

theorem children_relocateBelow (g : Position → Position) (n : Node) :
    (n.relocateBelow g).children = n.children.map (relocate g) := by
  rw [← children_relocate, relocateBelow, children_withSlots (shape_slots_relocate g n), children,
    slots_relocate]

theorem relocateBelow_withChildren {n : Node} {cs : List Node}
    (h : cs.length = n.children.length) : (n.withChildren cs).relocateBelow g
      = (n.relocateBelow g).withChildren (cs.map (relocate g)) := by
  have hslots := (refillSlots_eq n.slots cs h).2
  have hrelocated : ((refillSlots n.slots cs).map (Slot.relocate g)).map Slot.shape
      = n.slots.map Slot.shape := by
    rw [← hslots, List.map_map]
    exact List.map_congr_left fun s _ => Slot.shape_relocate g s
  rw [withChildren, relocateBelow, slots_withSlots hslots, withSlots_withSlots hslots hrelocated,
    withChildren, relocateBelow, slots_withSlots (shape_slots_relocate g n), refillSlots_relocate,
    withSlots_withSlots (shape_slots_relocate g n) hrelocated]

theorem number_relocateBelow (g : Position → Position) (n : Node) :
    (n.relocateBelow g).number = n.number.relocateBelow g := by
  have hlength : (numberAll n.children (n.firstBelow 0)).1.length
      = (n.withLoopId 0).children.length := by
    rw [children_withLoopId]
    exact (numberAll_forall₂ n.children (n.firstBelow 0)).length_eq.symm
  have hfirst : (n.relocateBelow g).firstBelow 0 = n.firstBelow 0 := by cases n <;> rfl
  have hloop : (n.relocateBelow g).withLoopId 0 = (n.withLoopId 0).relocateBelow g := by
    cases n <;> rfl
  rw [number, number, numberFrom_eq, numberFrom_eq n, children_relocateBelow, hfirst, hloop,
    numberAll_relocate fun c _ => numberFrom_relocate g c, relocateBelow_withChildren hlength]

/-! ## Positions in a tree -/

/-- A node that stays where it is differs only below. -/
theorem relocate_of_loc {n : Node} (h : g n.loc = n.loc) : n.relocate g = n.relocateBelow g := by
  cases n <;> exact congrArg _ h

theorem relocateBelow_eq_self {n : Node} (h : ∀ c ∈ n.children, c.relocate g = c) :
    n.relocateBelow g = n := by
  have hslots : n.slots.map (Slot.relocate g) = n.slots := by
    conv_rhs => rw [← List.map_id n.slots]
    exact List.map_congr_left fun s hs => s.relocate_eq_self fun c hc =>
      h c (List.mem_flatMap.2 ⟨s, hs, hc⟩)
  rw [relocateBelow, hslots, withSlots_slots]

/-- Where no position changes, the tree does not. -/
theorem relocate_eq_self {n : Node} (h : ∀ d ∈ n.preorder, g d.loc = d.loc) :
    n.relocate g = n := by
  induction n using induction_children with
  | h n ih =>
    obtain ⟨hloc, hbelow⟩ := n.forall_preorder_iff.1 h
    rw [relocate_of_loc hloc]
    exact relocateBelow_eq_self fun c hc => ih c hc (hbelow c hc)

/-- Maps of positions that make one tree of a tree agree on the positions in it. -/
theorem eq_of_relocate_eq {n : Node} (h : n.relocate g = n.relocate g') :
    ∀ d ∈ n.preorder, g d.loc = g' d.loc := by
  induction n using induction_children with
  | h n ih =>
    refine n.forall_preorder_iff.2 ⟨?_, fun c hc => ih c hc ?_⟩
    · rw [← loc_relocate g, h, loc_relocate]
    · have hchildren : n.children.map (relocate g) = n.children.map (relocate g') := by
        rw [← children_relocate, h, children_relocate]
      exact List.map_inj_left.1 hchildren c hc

/-- If it only matters to a tree what becomes of certain positions, it has no others below its
root. -/
theorem loc_of_relocateBelow_eq {P : Position → Prop} {n : Node}
    (h : ∀ g g' : Position → Position, (∀ p, P p → g p = g' p) →
      n.relocateBelow g = n.relocateBelow g') :
    ∀ c ∈ n.children, ∀ d ∈ c.preorder, P d.loc := by
  classical
  intro c hc d hd
  -- one map keeps all positions, the other one only these
  have htrees := h (fun p => p) (fun p => if P p then p else ⟨p.line + 1, p.column⟩)
    fun p hp => (if_pos hp).symm
  have hchildren := congrArg children htrees
  rw [children_relocateBelow, children_relocateBelow] at hchildren
  have hloc := eq_of_relocate_eq (List.map_inj_left.1 hchildren c hc) d hd
  by_contra hno
  rw [if_neg hno] at hloc
  exact absurd (congrArg Position.line hloc) (Nat.ne_of_lt (Nat.lt_succ_self _))

end Node

end LoopBound.Syntax
