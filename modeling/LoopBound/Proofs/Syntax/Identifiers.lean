import Mathlib.Algebra.Ring.Nat
import Mathlib.Data.List.Basic
import LoopBound.Syntax.Walk

/-!
# The identifiers of a tree

`Node.identifiers` reads the names out of a tree field by field, constructor by constructor, without
the view of a node as slots. That makes it a second opinion on the walk: a field that the view
forgot would be missing from the walk and present here. `identifiers_eq_preorder` says that none is.
-/

namespace LoopBound.Syntax

namespace Node

mutual

/-- The names of all identifiers in the tree, from left to right. -/
def identifiers : Node → List String
  | program b _ => ofNodes b
  | blockStatement b _ => ofNodes b
  | emptyStatement _ => []
  | expressionStatement e _ => e.identifiers
  | variableDeclarator i v _ => i.identifiers ++ ofOption v
  | variableDeclaration _ ds _ => ofNodes ds
  | functionDeclaration i ps b _ _ _ => i.identifiers ++ ofNodes ps ++ b.identifiers
  | classDeclaration i s b _ => i.identifiers ++ ofOption s ++ ofNodes b
  | ifStatement t c a _ => t.identifiers ++ c.identifiers ++ ofOption a
  | returnStatement a _ => ofOption a
  | breakStatement l _ => ofOption l
  | continueStatement l _ => ofOption l
  | throwStatement a _ => a.identifiers
  | catchClause p b _ => ofOption p ++ b.identifiers
  | tryStatement b h f _ => b.identifiers ++ ofOption h ++ ofOption f
  | switchCase t c _ => ofOption t ++ ofNodes c
  | switchStatement d cs _ => d.identifiers ++ ofNodes cs
  | labeledStatement l b _ => l.identifiers ++ b.identifiers
  | debuggerStatement _ => []
  | forStatement _ i t u b _ => ofOption i ++ ofOption t ++ ofOption u ++ b.identifiers
  | forInStatement _ l r b _ => l.identifiers ++ r.identifiers ++ b.identifiers
  | forOfStatement _ l r b _ _ => l.identifiers ++ r.identifiers ++ b.identifiers
  | whileStatement _ t b _ => t.identifiers ++ b.identifiers
  | doWhileStatement _ b t _ => b.identifiers ++ t.identifiers
  | identifier s _ => [s]
  | literal _ _ _ => []
  | templateLiteral _ es _ => ofNodes es
  | taggedTemplateExpression t q _ => t.identifiers ++ q.identifiers
  | thisExpression _ => []
  | super _ => []
  | arrayExpression es _ => ofOptions es
  | property k v _ _ _ _ _ => k.identifiers ++ ofOption v
  | objectExpression ps _ => ofNodes ps
  | spreadElement a _ => a.identifiers
  | restElement a _ => a.identifiers
  | assignmentPattern l r _ => l.identifiers ++ r.identifiers
  | arrayPattern es _ => ofOptions es
  | objectPattern ps _ => ofNodes ps
  | functionExpression i ps b _ _ _ => ofOption i ++ ofNodes ps ++ b.identifiers
  | arrowFunctionExpression ps b _ _ => ofNodes ps ++ b.identifiers
  | methodDefinition k v _ _ _ _ => k.identifiers ++ v.identifiers
  | propertyDefinition k v _ _ _ => k.identifiers ++ ofOption v
  | classExpression i s b _ => ofOption i ++ ofOption s ++ ofNodes b
  | unaryExpression _ a _ => a.identifiers
  | updateExpression _ a _ _ => a.identifiers
  | awaitExpression a _ => a.identifiers
  | yieldExpression a _ _ => ofOption a
  | binaryExpression _ l r _ => l.identifiers ++ r.identifiers
  | conditionalExpression t c a _ => t.identifiers ++ c.identifiers ++ a.identifiers
  | assignmentExpression _ l r _ => l.identifiers ++ r.identifiers
  | sequenceExpression es _ => ofNodes es
  | memberExpression o p _ _ _ => o.identifiers ++ p.identifiers
  | callExpression c as _ _ => c.identifiers ++ ofNodes as
  | newExpression c _ as _ => c.identifiers ++ ofNodes as
  | parenthesizedExpression e _ => e.identifiers

/-- The names in a list of trees. -/
def ofNodes : List Node → List String
  | [] => []
  | n :: ns => n.identifiers ++ ofNodes ns

/-- The names in a tree that may be missing. -/
def ofOption : Option Node → List String
  | none => []
  | some n => n.identifiers

/-- The names in a list of trees with holes. -/
def ofOptions : List (Option Node) → List String
  | [] => []
  | none :: ns => ofOptions ns
  | some n :: ns => n.identifiers ++ ofOptions ns

end

/-- The name that a node carries itself, apart from the nodes below it. -/
def ownName? : Node → Option String
  | identifier s _ => some s
  | _ => none

theorem ofNodes_eq_flatMap (ns : List Node) : ofNodes ns = ns.flatMap identifiers := by
  induction ns with
  | nil => rfl
  | cons n ns ih => rw [ofNodes, ih, List.flatMap_cons]

theorem ofOption_eq_flatMap (n : Option Node) : ofOption n = n.toList.flatMap identifiers := by
  cases n with
  | none => rfl
  | some n => simp [ofOption]

theorem ofOptions_eq_flatMap (ns : List (Option Node)) :
    ofOptions ns = (ns.filterMap id).flatMap identifiers := by
  induction ns with
  | nil => rfl
  | cons n ns ih =>
    cases n with
    | none => rw [ofOptions, ih]; rfl
    | some n => rw [ofOptions, ih]; rfl

/-- The names of a node are its own and those of its children. -/
theorem identifiers_eq (n : Node) :
    n.identifiers = n.ownName?.toList ++ n.children.flatMap identifiers := by
  cases n <;>
    simp [identifiers, ofNodes_eq_flatMap, ofOption_eq_flatMap, ofOptions_eq_flatMap, children,
      slots, Slot.nodes, ownName?]

/-- A name occurs at the node itself or in one of the trees below it. -/
theorem count_identifiers (s : String) (n : Node) : n.identifiers.count s
    = n.ownName?.toList.count s + (n.children.map fun c => c.identifiers.count s).sum := by
  rw [identifiers_eq, List.count_append, List.count_flatMap]
  rfl

theorem identifiers_eq_preorder (n : Node) : n.identifiers = n.preorder.filterMap ownName? := by
  induction n using induction_children with
  | h n ih =>
    rw [identifiers_eq, preorder_eq, List.filterMap_cons]
    have hbelow : n.children.flatMap identifiers
        = (n.children.flatMap preorder).filterMap ownName? := by
      rw [List.filterMap_flatMap]
      exact List.flatMap_congr fun c hc => ih c hc
    rw [hbelow]
    cases n.ownName? <;> rfl

theorem mem_identifiers {n : Node} {s : String} :
    s ∈ n.identifiers ↔ ∃ p, identifier s p ∈ n.preorder := by
  rw [identifiers_eq_preorder, List.mem_filterMap]
  constructor
  · rintro ⟨d, hd, hs⟩
    cases d with
    | identifier r p =>
      rw [ownName?, Option.some.injEq] at hs
      subst hs
      exact ⟨p, hd⟩
    | _ => simp [ownName?] at hs
  · rintro ⟨p, hp⟩
    exact ⟨_, hp, rfl⟩

end Node

end LoopBound.Syntax
