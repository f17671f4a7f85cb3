import LoopBound.Reading.Chain
import Mathlib.Data.List.Induction

/-!
# The tree of a chain

A chain of operands and operators can be read as a tree in many ways. In one of them, and in one
only, every operator binds as its place demands: what stands to its left binds tighter, or alike if
the operator is not `**`; what stands to its right binds tighter, or alike if the operator is `**`.
That tree is what the fold makes.

Trees are kept apart from the nodes they become: an operand may itself be an expression with an
operator, and the fold does not look into it.
-/

namespace LoopBound.Reading

open LoopBound.Syntax

/-! ## Trees -/

/-- A way to read a chain. -/
inductive OperatorTree where
  | operand (n : Node)
  | join (op : BinaryOperator) (left right : OperatorTree)

namespace OperatorTree

/-- The operands from left to right. -/
def operands : OperatorTree → List Node
  | operand n => [n]
  | join _ left right => left.operands ++ right.operands

/-- The operators from left to right. -/
def operators : OperatorTree → List BinaryOperator
  | operand _ => []
  | join op left right => left.operators ++ op :: right.operators

/-- The leftmost operand. -/
def first : OperatorTree → Node
  | operand n => n
  | join _ left _ => left.first

/-- What stands behind the leftmost operand. -/
def rest : OperatorTree → List (BinaryOperator × Node)
  | operand _ => []
  | join op left right => left.rest ++ (op, right.first) :: right.rest

/-- The expression that the tree stands for; it begins where its leftmost operand does. -/
def node : OperatorTree → Node
  | operand n => n
  | join op left right => .binaryExpression op.spelling left.node right.node left.first.loc

/-- The parts of a tree, itself among them. -/
def subtrees : OperatorTree → List OperatorTree
  | operand n => [operand n]
  | join op left right => join op left right :: (left.subtrees ++ right.subtrees)

/-- The operator may stand to the left of `op`. -/
def FitsLeft (op p : BinaryOperator) : Prop :=
  op.precedence < p.precedence ∨ p.precedence = op.precedence ∧ op ≠ .power

/-- The operator may stand to the right of `op`. -/
def FitsRight (op p : BinaryOperator) : Prop :=
  op.precedence < p.precedence ∨ p.precedence = op.precedence ∧ op = .power

/-- Every operator binds as its place demands. -/
inductive Settled : OperatorTree → Prop
  | operand (n : Node) : Settled (operand n)
  | join {op : BinaryOperator} {left right : OperatorTree} (hleft : left.Settled)
      (hright : right.Settled) (hfitsLeft : ∀ p ∈ left.operators, FitsLeft op p)
      (hfitsRight : ∀ p ∈ right.operators, FitsRight op p) : Settled (join op left right)

instance (op p : BinaryOperator) : Decidable (FitsLeft op p) :=
  inferInstanceAs (Decidable (_ ∨ _))

instance (op p : BinaryOperator) : Decidable (FitsRight op p) :=
  inferInstanceAs (Decidable (_ ∨ _))

theorem settled_join {op : BinaryOperator} {left right : OperatorTree} :
    (join op left right).Settled ↔ left.Settled ∧ right.Settled
      ∧ (∀ p ∈ left.operators, FitsLeft op p) ∧ ∀ p ∈ right.operators, FitsRight op p := by
  constructor
  · intro h
    cases h with
    | join hleft hright hfitsLeft hfitsRight => exact ⟨hleft, hright, hfitsLeft, hfitsRight⟩
  · rintro ⟨hleft, hright, hfitsLeft, hfitsRight⟩
    exact .join hleft hright hfitsLeft hfitsRight

instance decidableSettled : DecidablePred Settled
  | operand n => .isTrue (.operand n)
  | join _ left right =>
    have := decidableSettled left
    have := decidableSettled right
    decidable_of_iff _ settled_join.symm

theorem operands_eq (t : OperatorTree) : t.operands = t.first :: t.rest.map (·.2) := by
  induction t with
  | operand n => rfl
  | join op left right ihleft ihright => simp [operands, first, rest, ihleft, ihright]

theorem operators_eq (t : OperatorTree) : t.operators = t.rest.map (·.1) := by
  induction t with
  | operand n => rfl
  | join op left right ihleft ihright => simp [operators, rest, ihleft, ihright]

theorem length_operands (t : OperatorTree) : t.operands.length = t.operators.length + 1 := by
  rw [operands_eq, operators_eq, List.length_cons, List.length_map, List.length_map]

/-- A tree begins where its leftmost operand does. -/
theorem loc_node (t : OperatorTree) : t.node.loc = t.first.loc := by
  cases t <;> rfl

theorem node_join (op : BinaryOperator) (left right : OperatorTree) :
    (join op left right).node = joined left.node op right.node := by
  rw [node, joined, loc_node]

end OperatorTree

/-! ## Precedence -/

namespace BinaryOperator

/-- Only `**` binds as tightly as `**`. -/
theorem eq_power_of_precedence {p q : BinaryOperator} (h : p.precedence = q.precedence) :
    p = power ↔ q = power := by
  cases p <;> cases q <;> simp_all [precedence]

theorem closesBefore_iff {p q : BinaryOperator} :
    p.closesBefore q = true ↔ OperatorTree.FitsLeft q p := by
  simp [closesBefore, OperatorTree.FitsLeft]

theorem closesBefore_eq_false {p q : BinaryOperator} :
    p.closesBefore q = false ↔ OperatorTree.FitsRight p q := by
  rw [← Bool.not_eq_true, closesBefore_iff, OperatorTree.FitsLeft, OperatorTree.FitsRight]
  rcases Nat.lt_trichotomy p.precedence q.precedence with hlt | heq | hgt
  · exact ⟨fun _ => .inl hlt, fun _ h => by omega⟩
  · have hpower := eq_power_of_precedence heq
    simp only [heq, Nat.lt_irrefl, false_or, true_and, not_not, hpower, ne_eq]
  · exact ⟨fun h => absurd (.inl hgt) h, fun h => by omega⟩

end BinaryOperator

namespace OperatorTree

open BinaryOperator (closesBefore_iff closesBefore_eq_false eq_power_of_precedence)

/-! ## One tree at most -/

/-- Two operators cannot each be at the root, one to the left of the other. -/
theorem not_fitsRight_of_fitsLeft {p q : BinaryOperator} (h : FitsLeft q p) : ¬FitsRight p q := by
  rw [← closesBefore_eq_false, closesBefore_iff.2 h]
  exact Bool.noConfusion

/-- **No two settled trees read alike.** -/
theorem Settled.unique {s t : OperatorTree} (hs : s.Settled) (ht : t.Settled)
    (hoperands : s.operands = t.operands) (hoperators : s.operators = t.operators) : s = t := by
  induction hs generalizing t with
  | operand n =>
    cases ht with
    | operand m => rw [List.cons.inj hoperands |>.1]
    | join => simp [operators] at hoperators
  | @join op left right hleft hright hfitsLeft hfitsRight ihleft ihright =>
    cases ht with
    | operand m => simp [operators] at hoperators
    | @join op' left' right' hleft' hright' hfitsLeft' hfitsRight' =>
      -- the roots stand at the same place of the chain
      have hroot : left.operators = left'.operators ∧ op = op'
          ∧ right.operators = right'.operators := by
        rcases List.append_eq_append_iff.1 hoperators with ⟨between, hl, hr⟩ | ⟨between, hl, hr⟩
        · cases between with
          | nil =>
            rw [List.nil_append, List.cons.injEq] at hr
            exact ⟨by rw [hl, List.append_nil], hr⟩
          | cons q between =>
            rw [List.cons_append, List.cons.injEq] at hr
            obtain ⟨rfl, hr⟩ := hr
            exact absurd (hfitsRight op' (by simp [hr]))
              (not_fitsRight_of_fitsLeft (hfitsLeft' op (by simp [hl])))
        · cases between with
          | nil =>
            rw [List.nil_append, List.cons.injEq] at hr
            exact ⟨by rw [hl, List.append_nil], hr.1.symm, hr.2.symm⟩
          | cons q between =>
            rw [List.cons_append, List.cons.injEq] at hr
            obtain ⟨rfl, hr⟩ := hr
            exact absurd (hfitsRight' op (by simp [hr]))
              (not_fitsRight_of_fitsLeft (hfitsLeft op' (by simp [hl])))
      obtain ⟨hlefts, rfl, hrights⟩ := hroot
      have hlen : left.operands.length = left'.operands.length := by
        rw [length_operands, length_operands, hlefts]
      obtain ⟨hl, hr⟩ := List.append_inj hoperands hlen
      rw [ihleft hleft' hl hlefts, ihright hright' hr hrights]

/-! ## One tree at least -/

/-- Puts one more operator and operand at the right end, as far up as the operator demands. -/
def graft (op : BinaryOperator) (n : Node) : OperatorTree → OperatorTree
  | operand m => join op (operand m) (operand n)
  | join p left right =>
    if p.closesBefore op then join op (join p left right) (operand n)
    else join p left (right.graft op n)

theorem first_graft (op : BinaryOperator) (n : Node) (t : OperatorTree) :
    (t.graft op n).first = t.first := by
  cases t with
  | operand m => rfl
  | join p left right =>
    rw [graft]
    split <;> rfl

theorem rest_graft (op : BinaryOperator) (n : Node) (t : OperatorTree) :
    (t.graft op n).rest = t.rest ++ [(op, n)] := by
  induction t with
  | operand m => rfl
  | join p left right _ ihright =>
    rw [graft]
    split
    · rfl
    · rw [rest, first_graft, ihright, rest, List.append_assoc, List.cons_append]

theorem operators_graft (op : BinaryOperator) (n : Node) (t : OperatorTree) :
    (t.graft op n).operators = t.operators ++ [op] := by
  rw [operators_eq, rest_graft, List.map_append, operators_eq]
  rfl

/-- What fits beside an operator that closes before `op` fits to the left of `op`. -/
theorem fitsLeft_of_le {op p q : BinaryOperator} (h : FitsLeft op p)
    (hle : p.precedence ≤ q.precedence) : FitsLeft op q := by
  rcases h with hlt | ⟨heq, hne⟩
  · exact .inl (by omega)
  · rcases Nat.eq_or_lt_of_le hle with heq' | hlt
    · exact .inr ⟨by omega, hne⟩
    · exact .inl (by omega)

theorem Settled.precedence_le {op p : BinaryOperator} {left right : OperatorTree}
    (h : (OperatorTree.join op left right).Settled)
    (hp : p ∈ (OperatorTree.join op left right).operators) : op.precedence ≤ p.precedence := by
  cases h with
  | join _ _ hfitsLeft hfitsRight =>
    rcases List.mem_append.1 hp with hp | hp
    · rcases hfitsLeft p hp with hlt | ⟨heq, -⟩ <;> omega
    · rcases List.mem_cons.1 hp with rfl | hp
      · exact Nat.le_refl _
      · rcases hfitsRight p hp with hlt | ⟨heq, -⟩ <;> omega

theorem Settled.graft {t : OperatorTree} (h : t.Settled) (op : BinaryOperator) (n : Node) :
    (t.graft op n).Settled := by
  induction h with
  | operand m => exact .join (.operand m) (.operand n) (by simp [operators]) (by simp [operators])
  | @join p left right hleft hright hfitsLeft hfitsRight _ ihright =>
    have hsettled : (OperatorTree.join p left right).Settled :=
      .join hleft hright hfitsLeft hfitsRight
    rw [OperatorTree.graft]
    split
    · rename_i hcloses
      refine .join hsettled (.operand n) (fun q hq => ?_) (by simp [operators])
      exact fitsLeft_of_le (closesBefore_iff.1 hcloses) (hsettled.precedence_le hq)
    · rename_i hcloses
      refine .join hleft ihright hfitsLeft fun q hq => ?_
      rw [operators_graft] at hq
      rcases List.mem_append.1 hq with hq | hq
      · exact hfitsRight q hq
      · obtain rfl := List.mem_singleton.1 hq
        exact closesBefore_eq_false.1 (by simpa using hcloses)

/-- Every chain can be read as a settled tree. -/
theorem exists_settled (first : Node) (rest : List (BinaryOperator × Node)) :
    ∃ t : OperatorTree, t.first = first ∧ t.rest = rest ∧ t.Settled := by
  induction rest using List.reverseRecOn with
  | nil => exact ⟨.operand first, rfl, rfl, .operand first⟩
  | append_singleton rest r ih =>
    obtain ⟨t, hfirst, hrest, hsettled⟩ := ih
    exact ⟨t.graft r.1 r.2, by rw [first_graft, hfirst], by rw [rest_graft, hrest],
      hsettled.graft r.1 r.2⟩

end OperatorTree

/-! ## The fold -/

/-- Nothing is closed by an operator that the waiting one does not close before. -/
theorem closeBefore_of_waits {op : BinaryOperator} {waiting : Waiting} {right : Node}
    (h : ∀ w ∈ waiting.head?, w.2.closesBefore op = false) :
    closeBefore op waiting right = (waiting, right) := by
  cases waiting with
  | nil => rfl
  | cons w waiting =>
    obtain ⟨left, p⟩ := w
    rw [closeBefore, if_neg (by rw [h (left, p) rfl]; exact Bool.false_ne_true)]

/-- Folding a settled tree's reading, and whatever follows, folds the tree first: where no operator
of the tree closes what waits in front of it, and all of them close before what follows. -/
theorem foldRest_settled {t : OperatorTree} (ht : t.Settled) {waiting : Waiting}
    {more : List (BinaryOperator × Node)}
    (hwaiting : ∀ w ∈ waiting.head?, ∀ p ∈ t.operators, w.2.closesBefore p = false)
    (hmore : ∀ r ∈ more.head?, ∀ p ∈ t.operators, p.closesBefore r.1 = true) :
    foldRest waiting t.first (t.rest ++ more) = foldRest waiting t.node more := by
  induction ht generalizing waiting more with
  | operand n => rfl
  | @join op left right hleft hright hfitsLeft hfitsRight ihleft ihright =>
    have hop : op ∈ (OperatorTree.join op left right).operators := by
      simp [OperatorTree.operators]
    have hl : ∀ p ∈ left.operators, p ∈ (OperatorTree.join op left right).operators := by
      simp_all [OperatorTree.operators]
    have hr : ∀ p ∈ right.operators, p ∈ (OperatorTree.join op left right).operators := by
      simp_all [OperatorTree.operators]
    calc foldRest waiting left.first (left.rest ++ (op, right.first) :: right.rest ++ more)
        = foldRest waiting left.first (left.rest ++ (op, right.first) :: (right.rest ++ more)) := by
          rw [List.append_assoc, List.cons_append]
      _ = foldRest waiting left.node ((op, right.first) :: (right.rest ++ more)) := by
          refine ihleft (fun w hw p hp => hwaiting w hw p (hl p hp)) ?_
          rintro r ⟨⟩ p hp
          exact BinaryOperator.closesBefore_iff.2 (hfitsLeft p hp)
      _ = foldRest ((left.node, op) :: waiting) right.first (right.rest ++ more) := by
          rw [foldRest, closeBefore_of_waits fun w hw => hwaiting w hw op hop]
      _ = foldRest ((left.node, op) :: waiting) right.node more := by
          refine ihright ?_ fun r hr' p hp => hmore r hr' p (hr p hp)
          rintro w ⟨⟩ p hp
          exact BinaryOperator.closesBefore_eq_false.2 (hfitsRight p hp)
      _ = foldRest waiting (OperatorTree.join op left right).node more := by
          rw [OperatorTree.node_join]
          cases more with
          | nil => rfl
          | cons r more => rw [foldRest, foldRest, closeBefore, if_pos (hmore r rfl op hop)]

/-- A settled tree is what its reading is folded into. -/
theorem foldChain_settled {t : OperatorTree} (ht : t.Settled) :
    foldChain t.first t.rest = t.node := by
  have hfold := @foldRest_settled t ht [] [] (by simp) (by simp)
  rwa [List.append_nil] at hfold

/-- Every chain is folded into a settled tree. -/
theorem exists_foldChain_eq (first : Node) (rest : List (BinaryOperator × Node)) :
    ∃ t : OperatorTree, t.operands = first :: rest.map (·.2) ∧ t.operators = rest.map (·.1)
      ∧ t.Settled ∧ foldChain first rest = t.node := by
  obtain ⟨t, rfl, rfl, hsettled⟩ := OperatorTree.exists_settled first rest
  exact ⟨t, t.operands_eq, t.operators_eq, hsettled, foldChain_settled hsettled⟩

/-- What joining keeps holds of a folded chain as soon as it holds of the operands. -/
theorem foldChain_induction {P : Node → Prop}
    (hjoin : ∀ left op right, P left → P right → P (joined left op right)) {first : Node}
    {rest : List (BinaryOperator × Node)} (hfirst : P first) (hrest : ∀ r ∈ rest, P r.2) :
    P (foldChain first rest) := by
  obtain ⟨t, hoperands, -, -, hfold⟩ := exists_foldChain_eq first rest
  have hall : ∀ n ∈ t.operands, P n := by
    rw [hoperands]
    exact List.forall_mem_cons.2 ⟨hfirst, List.forall_mem_map.2 hrest⟩
  rw [hfold]
  clear hoperands hfold
  induction t with
  | operand n => exact hall n List.mem_cons_self
  | join op left right ihleft ihright =>
    rw [OperatorTree.operands, List.forall_mem_append] at hall
    rw [OperatorTree.node_join]
    exact hjoin _ op _ (ihleft hall.1) (ihright hall.2)

/-! ## Two stacks -/

/-- The operands and the operators that are not joined yet, each with the last one in front. -/
structure Stacks where
  output : List Node
  pending : List BinaryOperator
  deriving Repr

namespace Stacks

/-- Takes off the last operator and its two operands, and puts their expression on; impossible where
one of them is missing. -/
def reduce? : Stacks → Option Stacks
  | ⟨right :: left :: output, op :: pending⟩ => some ⟨joined left op right :: output, pending⟩
  | _ => none

theorem length_of_reduce? {s s' : Stacks} (h : s.reduce? = some s') :
    s'.pending.length < s.pending.length := by
  unfold reduce? at h
  split at h
  · rw [← Option.some.inj h]
    exact Nat.lt_succ_self _
  · cases h

/-- Reduces as long as the last operator is one to close. -/
def reduceWhile? (closes : BinaryOperator → Bool) (s : Stacks) : Option Stacks :=
  match s.pending with
  | [] => some s
  | p :: _ =>
    if closes p then
      match _h : s.reduce? with
      | some s' => reduceWhile? closes s'
      | none => none
    else some s
termination_by s.pending.length
decreasing_by exact length_of_reduce? _h

/-- Takes in the rest of a chain, and reduces what is left. -/
def run? : Stacks → List (BinaryOperator × Node) → Option Stacks
  | s, [] => s.reduceWhile? fun _ => true
  | s, (op, next) :: rest =>
    match s.reduceWhile? (·.closesBefore op) with
    | some s => run? ⟨next :: s.output, op :: s.pending⟩ rest
    | none => none

/-- The stacks where these operands wait and this one is the last. -/
def of (waiting : Waiting) (right : Node) : Stacks :=
  ⟨right :: waiting.map (·.1), waiting.map (·.2)⟩

theorem reduceWhile?_nil (closes : BinaryOperator → Bool) (right : Node) :
    (of [] right).reduceWhile? closes = some (of [] right) := by
  rw [reduceWhile?]
  rfl

theorem reduceWhile?_cons (closes : BinaryOperator → Bool) (left : Node) (p : BinaryOperator)
    (waiting : Waiting) (right : Node) : (of ((left, p) :: waiting) right).reduceWhile? closes
      = if closes p then (of waiting (joined left p right)).reduceWhile? closes
        else some (of ((left, p) :: waiting) right) := by
  rw [reduceWhile?]
  rfl

theorem reduceWhile?_closeBefore (op : BinaryOperator) (waiting : Waiting) (right : Node) :
    (of waiting right).reduceWhile? (·.closesBefore op)
      = some (of (closeBefore op waiting right).1 (closeBefore op waiting right).2) := by
  induction waiting generalizing right with
  | nil => exact reduceWhile?_nil _ right
  | cons w waiting ih =>
    rw [reduceWhile?_cons, closeBefore]
    split
    · exact ih _
    · rfl

theorem reduceWhile?_closeAll (waiting : Waiting) (right : Node) :
    (of waiting right).reduceWhile? (fun _ => true) = some (of [] (closeAll waiting right)) := by
  induction waiting generalizing right with
  | nil => exact reduceWhile?_nil _ right
  | cons w waiting ih =>
    rw [reduceWhile?_cons, if_pos rfl]
    exact ih _

/-- The stacks never run empty, and in the end they hold the folded chain and nothing else. -/
theorem run?_of (waiting : Waiting) (operand : Node) (rest : List (BinaryOperator × Node)) :
    (of waiting operand).run? rest = some ⟨[foldRest waiting operand rest], []⟩ := by
  induction rest generalizing waiting operand with
  | nil => exact reduceWhile?_closeAll waiting operand
  | cons r rest ih =>
    obtain ⟨op, next⟩ := r
    rw [run?, reduceWhile?_closeBefore]
    exact ih (((closeBefore op waiting operand).2, op) :: (closeBefore op waiting operand).1) next

end Stacks

/-! ## The chain as it is given -/

theorem BinaryOperator.ofSpelling?_spelling (op : BinaryOperator) :
    BinaryOperator.ofSpelling? op.spelling = some op := by
  cases op <;> decide

theorem pairOperators_spelling {operators : List BinaryOperator} {operands : List Node} :
    pairOperators (operators.map (·.spelling)) operands = .ok (operators.zip operands) := by
  induction operators generalizing operands with
  | nil => rfl
  | cons op operators ih =>
    cases operands with
    | nil => rfl
    | cons operand operands =>
      rw [List.map_cons, pairOperators, BinaryOperator.ofSpelling?_spelling, ih]
      rfl

/-- **A chain is folded into the one settled tree that reads like it.** Every expression in the tree
begins where its leftmost operand does. Done on two stacks, the fold never finds one of them empty,
and it leaves nothing but the result. -/
theorem foldBinary_settled {operands : List Node} {operators : List BinaryOperator}
    (hlen : operands.length = operators.length + 1) :
    ∃ t : OperatorTree, t.operands = operands ∧ t.operators = operators ∧ t.Settled
      ∧ (∀ s : OperatorTree, s.operands = operands → s.operators = operators → s.Settled → s = t)
      ∧ (∀ s ∈ t.subtrees, s.node.loc = s.first.loc)
      ∧ foldBinary operands (operators.map (·.spelling)) = .ok t.node
      ∧ ∃ first rest, operands = first :: rest
        ∧ (⟨[first], []⟩ : Stacks).run? (operators.zip rest) = some ⟨[t.node], []⟩ := by
  cases operands with
  | nil => cases hlen
  | cons first rest =>
    have hrest : rest.length = operators.length := Nat.succ.inj hlen
    obtain ⟨t, hoperands, hoperators, hsettled, hfold⟩ :=
      exists_foldChain_eq first (operators.zip rest)
    rw [List.map_snd_zip (Nat.le_of_eq hrest)] at hoperands
    rw [List.map_fst_zip (Nat.le_of_eq hrest.symm)] at hoperators
    refine ⟨t, hoperands, hoperators, hsettled, fun s hs hs' hsettled' => ?_,
      fun s _ => s.loc_node, ?_, first, rest, rfl, ?_⟩
    · exact hsettled'.unique hsettled (hs.trans hoperands.symm) (hs'.trans hoperators.symm)
    · rw [foldBinary, List.length_map, if_pos hrest, pairOperators_spelling]
      exact congrArg Except.ok hfold
    · rw [← hfold]
      exact Stacks.run?_of [] first (operators.zip rest)

/-- The tree of a chain with operators of both kinds. -/
def powersTree : OperatorTree :=
  .join .minus
    (.join .minus (.operand (.identifier "a" ⟨1, 1⟩))
      (.join .power (.operand (.identifier "b" ⟨1, 3⟩))
        (.join .power (.operand (.identifier "c" ⟨1, 6⟩)) (.operand (.identifier "d" ⟨1, 9⟩)))))
    (.operand (.identifier "e" ⟨1, 11⟩))

theorem foldBinary_settled_powers :
    powersTree.operands.length = [BinaryOperator.minus, .power, .power, .minus].length + 1
      ∧ powersTree.Settled
      ∧ foldBinary powersTree.operands ["-", "**", "**", "-"] = .ok powersTree.node := by
  have hlen : powersTree.operands.length
      = [BinaryOperator.minus, .power, .power, .minus].length + 1 := rfl
  have hsettled : powersTree.Settled := by
    decide
  obtain ⟨t, -, -, -, hunique, -, hfold, -⟩ := foldBinary_settled hlen
  obtain rfl := hunique powersTree rfl rfl hsettled
  exact ⟨hlen, hsettled, hfold⟩

end LoopBound.Reading
