import LoopBound.Syntax.Node

/-!
# Slots

One view of all nodes: what a node holds below it is a list of *slots* in source order, each with
one node, a node that may be missing, a list, or a list with holes. `withSlots` puts other nodes
into the slots. Walks and rewritings are defined through this view, and their proofs need no case
for every kind of node: below a node are its `children`, and those are smaller.
-/

namespace LoopBound.Syntax

/-- A place for nodes below a node. -/
inductive Slot where
  | one (n : Node)
  | maybe (n : Option Node)
  | many (ns : List Node)
  | sparse (ns : List (Option Node))

namespace Slot

/-- The nodes in the slot, in order. -/
def nodes : Slot → List Node
  | one n => [n]
  | maybe n => n.toList
  | many ns => ns
  | sparse ns => ns.filterMap id

/-- Puts other nodes in: `single` where there is room for one, `splice` in a list. Holes stay. -/
def map (single : Node → Node) (splice : Node → List Node) : Slot → Slot
  | one n => one (single n)
  | maybe n => maybe (n.map single)
  | many ns => many (ns.flatMap splice)
  | sparse ns => sparse (ns.flatMap fun
    | none => [none]
    | some n => (splice n).map some)

/-- `map` for functions that are given only the nodes of the slot. -/
def mapMem (s : Slot) (single : (c : Node) → c ∈ s.nodes → Node)
    (splice : (c : Node) → c ∈ s.nodes → List Node) : Slot :=
  match s with
  | one n => one (single n (by simp [nodes]))
  | maybe none => maybe none
  | maybe (some n) => maybe (some (single n (by simp [nodes])))
  | many ns => many (ns.attach.flatMap fun c => splice c.1 c.2)
  | sparse ns => sparse (ns.attach.flatMap fun
    | ⟨none, _⟩ => [none]
    | ⟨some n, h⟩ => (splice n (by simpa [nodes] using h)).map some)

theorem mapMem_eq_map (s : Slot) (single : Node → Node) (splice : Node → List Node) :
    s.mapMem (fun c _ => single c) (fun c _ => splice c) = s.map single splice := by
  cases s with
  | one n => rfl
  | maybe n => cases n <;> rfl
  | many ns => simp [mapMem, map, List.flatMap]
  | sparse ns =>
    simp only [mapMem, map]
    congr 1
    conv => rhs; rw [← List.attach_map_subtype_val ns, List.flatMap_map]
    congr 1
    funext ⟨o, ho⟩
    cases o <;> rfl

end Slot

namespace Node

/-- The slots of a node in source order. -/
def slots : Node → List Slot
  | program b _ => [.many b]
  | blockStatement b _ => [.many b]
  | emptyStatement _ => []
  | expressionStatement e _ => [.one e]
  | variableDeclarator i v _ => [.one i, .maybe v]
  | variableDeclaration _ ds _ => [.many ds]
  | functionDeclaration i ps b _ _ _ => [.one i, .many ps, .one b]
  | classDeclaration i s b _ => [.one i, .maybe s, .many b]
  | ifStatement t c a _ => [.one t, .one c, .maybe a]
  | returnStatement a _ => [.maybe a]
  | breakStatement l _ => [.maybe l]
  | continueStatement l _ => [.maybe l]
  | throwStatement a _ => [.one a]
  | catchClause p b _ => [.maybe p, .one b]
  | tryStatement b h f _ => [.one b, .maybe h, .maybe f]
  | switchCase t c _ => [.maybe t, .many c]
  | switchStatement d cs _ => [.one d, .many cs]
  | labeledStatement l b _ => [.one l, .one b]
  | debuggerStatement _ => []
  | forStatement _ i t u b _ => [.maybe i, .maybe t, .maybe u, .one b]
  | forInStatement _ l r b _ => [.one l, .one r, .one b]
  | forOfStatement _ l r b _ _ => [.one l, .one r, .one b]
  | whileStatement _ t b _ => [.one t, .one b]
  | doWhileStatement _ b t _ => [.one b, .one t]
  | identifier _ _ => []
  | literal _ _ _ => []
  | templateLiteral _ es _ => [.many es]
  | taggedTemplateExpression t q _ => [.one t, .one q]
  | thisExpression _ => []
  | super _ => []
  | arrayExpression es _ => [.sparse es]
  | property k v _ _ _ _ _ => [.one k, .maybe v]
  | objectExpression ps _ => [.many ps]
  | spreadElement a _ => [.one a]
  | restElement a _ => [.one a]
  | assignmentPattern l r _ => [.one l, .one r]
  | arrayPattern es _ => [.sparse es]
  | objectPattern ps _ => [.many ps]
  | functionExpression i ps b _ _ _ => [.maybe i, .many ps, .one b]
  | arrowFunctionExpression ps b _ _ => [.many ps, .one b]
  | methodDefinition k v _ _ _ _ => [.one k, .one v]
  | propertyDefinition k v _ _ _ => [.one k, .maybe v]
  | classExpression i s b _ => [.maybe i, .maybe s, .many b]
  | unaryExpression _ a _ => [.one a]
  | updateExpression _ a _ _ => [.one a]
  | awaitExpression a _ => [.one a]
  | yieldExpression a _ _ => [.maybe a]
  | binaryExpression _ l r _ => [.one l, .one r]
  | conditionalExpression t c a _ => [.one t, .one c, .one a]
  | assignmentExpression _ l r _ => [.one l, .one r]
  | sequenceExpression es _ => [.many es]
  | memberExpression o p _ _ _ => [.one o, .one p]
  | callExpression c as _ _ => [.one c, .many as]
  | newExpression c _ as _ => [.one c, .many as]
  | parenthesizedExpression e _ => [.one e]

/-- The node with other slots; slots that do not fit leave it as it is. -/
def withSlots : Node → List Slot → Node
  | program _ p, [.many b] => program b p
  | blockStatement _ p, [.many b] => blockStatement b p
  | expressionStatement _ p, [.one e] => expressionStatement e p
  | variableDeclarator _ _ p, [.one i, .maybe v] => variableDeclarator i v p
  | variableDeclaration k _ p, [.many ds] => variableDeclaration k ds p
  | functionDeclaration _ _ _ a g p, [.one i, .many ps, .one b] => functionDeclaration i ps b a g p
  | classDeclaration _ _ _ p, [.one i, .maybe s, .many b] => classDeclaration i s b p
  | ifStatement _ _ _ p, [.one t, .one c, .maybe a] => ifStatement t c a p
  | returnStatement _ p, [.maybe a] => returnStatement a p
  | breakStatement _ p, [.maybe l] => breakStatement l p
  | continueStatement _ p, [.maybe l] => continueStatement l p
  | throwStatement _ p, [.one a] => throwStatement a p
  | catchClause _ _ p, [.maybe c, .one b] => catchClause c b p
  | tryStatement _ _ _ p, [.one b, .maybe h, .maybe f] => tryStatement b h f p
  | switchCase _ _ p, [.maybe t, .many c] => switchCase t c p
  | switchStatement _ _ p, [.one d, .many cs] => switchStatement d cs p
  | labeledStatement _ _ p, [.one l, .one b] => labeledStatement l b p
  | forStatement n _ _ _ _ p, [.maybe i, .maybe t, .maybe u, .one b] => forStatement n i t u b p
  | forInStatement n _ _ _ p, [.one l, .one r, .one b] => forInStatement n l r b p
  | forOfStatement n _ _ _ a p, [.one l, .one r, .one b] => forOfStatement n l r b a p
  | whileStatement n _ _ p, [.one t, .one b] => whileStatement n t b p
  | doWhileStatement n _ _ p, [.one b, .one t] => doWhileStatement n b t p
  | templateLiteral q _ p, [.many es] => templateLiteral q es p
  | taggedTemplateExpression _ _ p, [.one t, .one q] => taggedTemplateExpression t q p
  | arrayExpression _ p, [.sparse es] => arrayExpression es p
  | property _ _ k c s m p, [.one key, .maybe v] => property key v k c s m p
  | objectExpression _ p, [.many ps] => objectExpression ps p
  | spreadElement _ p, [.one a] => spreadElement a p
  | restElement _ p, [.one a] => restElement a p
  | assignmentPattern _ _ p, [.one l, .one r] => assignmentPattern l r p
  | arrayPattern _ p, [.sparse es] => arrayPattern es p
  | objectPattern _ p, [.many ps] => objectPattern ps p
  | functionExpression _ _ _ a g p, [.maybe i, .many ps, .one b] => functionExpression i ps b a g p
  | arrowFunctionExpression _ _ a p, [.many ps, .one b] => arrowFunctionExpression ps b a p
  | methodDefinition _ _ k s c p, [.one key, .one v] => methodDefinition key v k s c p
  | propertyDefinition _ _ s c p, [.one key, .maybe v] => propertyDefinition key v s c p
  | classExpression _ _ _ p, [.maybe i, .maybe s, .many b] => classExpression i s b p
  | unaryExpression o _ p, [.one a] => unaryExpression o a p
  | updateExpression o _ b p, [.one a] => updateExpression o a b p
  | awaitExpression _ p, [.one a] => awaitExpression a p
  | yieldExpression _ d p, [.maybe a] => yieldExpression a d p
  | binaryExpression o _ _ p, [.one l, .one r] => binaryExpression o l r p
  | conditionalExpression _ _ _ p, [.one t, .one c, .one a] => conditionalExpression t c a p
  | assignmentExpression o _ _ p, [.one l, .one r] => assignmentExpression o l r p
  | sequenceExpression _ p, [.many es] => sequenceExpression es p
  | memberExpression _ _ c o p, [.one obj, .one prop] => memberExpression obj prop c o p
  | callExpression _ _ o p, [.one c, .many as] => callExpression c as o p
  | newExpression _ h _ p, [.one c, .many as] => newExpression c h as p
  | parenthesizedExpression _ p, [.one e] => parenthesizedExpression e p
  | n, _ => n

/-- The nodes directly below, in source order. -/
def children (n : Node) : List Node :=
  n.slots.flatMap Slot.nodes

/-! ## Laws of the view -/

theorem withSlots_slots (n : Node) : n.withSlots n.slots = n := by
  cases n <;> rfl

theorem slots_withSlots_map (n : Node) (single : Node → Node) (splice : Node → List Node) :
    (n.withSlots (n.slots.map (Slot.map single splice))).slots
      = n.slots.map (Slot.map single splice) := by
  cases n <;> rfl

theorem sizeOf_lt_of_mem_nodes {c : Node} {s : Slot} (h : c ∈ s.nodes) : sizeOf c < sizeOf s := by
  cases s with
  | one n => simp only [Slot.nodes, List.mem_singleton] at h; subst h; simp
  | maybe o =>
    cases o with
    | none => simp [Slot.nodes] at h
    | some n =>
      simp only [Slot.nodes, Option.toList_some, List.mem_singleton] at h
      subst h; simp; omega
  | many ns =>
    simp only [Slot.nodes] at h
    have := List.sizeOf_lt_of_mem h
    simp only [Slot.many.sizeOf_spec]; omega
  | sparse ns =>
    simp only [Slot.nodes, List.mem_filterMap, id] at h
    obtain ⟨o, ho, rfl⟩ := h
    have := List.sizeOf_lt_of_mem ho
    simp only [Slot.sparse.sizeOf_spec]
    simp only [Option.some.sizeOf_spec] at this; omega

theorem sizeOf_slot_le (n : Node) : ∀ s ∈ n.slots, sizeOf s ≤ sizeOf n := by
  cases n <;> simp [slots] <;> omega

/-- A node in a slot is smaller than the node that the slot belongs to. -/
theorem sizeOf_lt_of_mem_slot {n c : Node} {s : Slot} (hs : s ∈ n.slots) (hc : c ∈ s.nodes) :
    sizeOf c < sizeOf n :=
  Nat.lt_of_lt_of_le (sizeOf_lt_of_mem_nodes hc) (sizeOf_slot_le n _ hs)

theorem sizeOf_lt_of_mem_children {n c : Node} (h : c ∈ n.children) : sizeOf c < sizeOf n := by
  obtain ⟨s, hs, hc⟩ := List.mem_flatMap.1 h
  exact sizeOf_lt_of_mem_slot hs hc

/-- What holds of a node as soon as it holds of its children holds of every node. -/
theorem induction_children {P : Node → Prop} (h : ∀ n, (∀ c ∈ n.children, P c) → P n) (n : Node) :
    P n :=
  h n fun c hc =>
    have := sizeOf_lt_of_mem_children hc
    induction_children h c
termination_by n

end Node

end LoopBound.Syntax
