import LoopBound.Guard.Inject
import LoopBound.Proofs.Guard.Fresh
import LoopBound.Proofs.Syntax.LoopIds

/-!
# The two rewritings, node by node

Guarding a tree is two rewritings, one for the bodies and one for the declarations. This module says
what each of them makes of one node in terms of its children, which loops they keep, and that they
leave a tree alone that has none of the guarded loops. Nothing after it opens a rewriting again.
-/

namespace LoopBound.Guard

open LoopBound.Syntax

/-! ## Loops and what is below them -/

theorem loop?_mapBelow (single : Node → Node) (splice : Node → List Node) (n : Node) :
    (n.mapBelow single splice).loop? = n.loop?.map fun l => { l with body := single l.body } := by
  cases n <;> rfl

theorem loopId?_mapBelow (single : Node → Node) (splice : Node → List Node) (n : Node) :
    (n.mapBelow single splice).loopId? = n.loopId? :=
  Node.loopId?_withSlots (Node.map_shape_map _ _ _)

/-- A new body is one of the things below a loop. -/
theorem mapBelow_withLoopBody (single : Node → Node) (splice : Node → List Node) (n body : Node) :
    (n.withLoopBody body).mapBelow single splice
      = (n.mapBelow single splice).withLoopBody (single body) := by
  cases n <;> rfl

theorem loop?_withLoopBody (n body : Node) :
    (n.withLoopBody body).loop? = n.loop?.map fun l => { l with body } := by
  cases n <;> rfl

theorem loopId?_withLoopBody (n body : Node) : (n.withLoopBody body).loopId? = n.loopId? := by
  cases n <;> rfl

theorem loc_withLoopBody (n body : Node) : (n.withLoopBody body).loc = n.loc := by
  cases n <;> rfl

theorem withLoopBody_withLoopBody (n body body' : Node) :
    (n.withLoopBody body).withLoopBody body' = n.withLoopBody body' := by
  cases n <;> rfl

theorem withLoopBody_self {n : Node} {l : Loop} (h : n.loop? = some l) :
    n.withLoopBody l.body = n := by
  cases n <;> simp only [Node.loop?, Option.some.injEq, reduceCtorEq] at h <;> subst h <;> rfl

theorem body_mem_children {n : Node} {l : Loop} (h : n.loop? = some l) : l.body ∈ n.children := by
  cases n <;> simp only [Node.loop?, Option.some.injEq, reduceCtorEq] at h <;> subst h <;>
    simp [Node.children, Node.slots, Slot.nodes]

/-! ## Chains of labels -/

theorem isLabeled_head (n : Node) : isLabeled n.head = isLabeled n := by
  cases n <;> rfl

theorem isLabeled_mapBelow (single : Node → Node) (splice : Node → List Node) (n : Node) :
    isLabeled (n.mapBelow single splice) = isLabeled n := by
  rw [← isLabeled_head, Node.head_mapBelow, isLabeled_head]

theorem isLabeled_withLoopBody (n body : Node) : isLabeled (n.withLoopBody body) = isLabeled n := by
  cases n <;> rfl

theorem isLabeled_eq_true {n : Node} :
    isLabeled n = true ↔ ∃ label body p, n = .labeledStatement label body p := by
  cases n <;> simp [isLabeled]

theorem unlabeled_of_not_labeled {n : Node} (h : isLabeled n = false) : unlabeled n = n := by
  cases n with
  | labeledStatement => simp [isLabeled] at h
  | _ => rfl

/-- The number of the loop that a statement is, behind its labels. -/
def loopBehind? (n : Node) : Option LoopId :=
  (unlabeled n).loopId?

theorem loopBehind?_of_not_labeled {n : Node} (h : isLabeled n = false) :
    loopBehind? n = n.loopId? := by
  rw [loopBehind?, unlabeled_of_not_labeled h]

theorem loopId?_of_labeled {n : Node} (h : isLabeled n = true) : n.loopId? = none := by
  obtain ⟨label, body, p, rfl⟩ := isLabeled_eq_true.1 h
  rfl

/-- The loop behind the labels of a statement is a loop of the statement. -/
theorem loopBehind?_mem {n : Node} {k : LoopId} (h : loopBehind? n = some k) : k ∈ n.loopIds := by
  induction n using Node.induction_children with
  | h n ih =>
    by_cases hl : isLabeled n = true
    · obtain ⟨label, body, p, rfl⟩ := isLabeled_eq_true.1 hl
      have hbody : body ∈ (Node.labeledStatement label body p).children := by
        simp [Node.children, Node.slots, Slot.nodes]
      exact Node.mem_loopIds_of_mem_children hbody (ih body hbody h)
    · rw [loopBehind?_of_not_labeled (by simpa using hl)] at h
      rw [Node.loopIds_eq, h]
      exact List.mem_append_left _ List.mem_cons_self

theorem guardBehind?_eq (guards : Guards) (n : Node) :
    guardBehind? guards n = (loopBehind? n).bind fun k => guards.lookup k := by
  unfold guardBehind? loopBehind?
  cases (unlabeled n).loopId? <;> rfl

/-! ## The bodies -/

theorem run_guardBodies (guards : Guards) (max : Int) (parent : Option Node) (n : Node) :
    Rewriting.run (fun _ _ n => .become (guardLoop guards max n)) parent n
      = .become (guardBodies guards max n) := by
  rw [guardBodies, Rewriting.apply, Rewriting.run_eq, Rewriting.run_eq]
  rfl

/-- The bodies below a node are guarded first, and then its own if it is a loop. -/
theorem guardBodies_eq (guards : Guards) (max : Int) (n : Node) :
    guardBodies guards max n = guardLoop guards max
      (n.mapBelow (guardBodies guards max) fun c => [guardBodies guards max c]) := by
  have h := Rewriting.run_eq (fun _ _ n => .become (guardLoop guards max n)) none n
  simp only [run_guardBodies, Replacement.single, Replacement.items, Replacement.become.injEq] at h
  exact h

/-- A body with the guards of its loop at its top. -/
theorem guardLoop_of_loop {guards : Guards} {max : Int} {n : Node} {l : Loop}
    (h : n.loop? = some l) : guardLoop guards max n
      = n.withLoopBody ((guards.of l.id).foldl (guardBody max) l.body) := by
  rw [guardLoop, h]

theorem guardLoop_of_no_guard {guards : Guards} {max : Int} {n : Node}
    (h : ∀ k, n.loopId? = some k → guards.of k = []) : guardLoop guards max n = n := by
  rw [guardLoop]
  cases hl : n.loop? with
  | none => rfl
  | some l =>
    have hk : n.loopId? = some l.id := by rw [Node.loopId?, hl]; rfl
    simp only [h l.id hk, List.foldl_nil]
    exact withLoopBody_self hl

theorem loopId?_guardLoop (guards : Guards) (max : Int) (n : Node) :
    (guardLoop guards max n).loopId? = n.loopId? := by
  rw [guardLoop]
  cases n.loop? with
  | none => rfl
  | some l => exact loopId?_withLoopBody _ _

theorem isLabeled_guardLoop (guards : Guards) (max : Int) (n : Node) :
    isLabeled (guardLoop guards max n) = isLabeled n := by
  rw [guardLoop]
  cases n.loop? with
  | none => rfl
  | some l => exact isLabeled_withLoopBody _ _

theorem loc_guardLoop (guards : Guards) (max : Int) (n : Node) :
    (guardLoop guards max n).loc = n.loc := by
  rw [guardLoop]
  cases n.loop? with
  | none => rfl
  | some l => exact loc_withLoopBody _ _

theorem loopId?_guardBodies (guards : Guards) (max : Int) (n : Node) :
    (guardBodies guards max n).loopId? = n.loopId? := by
  rw [guardBodies_eq, loopId?_guardLoop, loopId?_mapBelow]

theorem isLabeled_guardBodies (guards : Guards) (max : Int) (n : Node) :
    isLabeled (guardBodies guards max n) = isLabeled n := by
  rw [guardBodies_eq, isLabeled_guardLoop, isLabeled_mapBelow]

theorem loc_guardBodies (guards : Guards) (max : Int) (n : Node) :
    (guardBodies guards max n).loc = n.loc := by
  rw [guardBodies_eq, loc_guardLoop, Node.loc_mapBelow]

/-! ## The declarations -/

/-- The guard that is declared right in front of a statement, which may stand behind a label. -/
def guardInFront? (guards : Guards) (behindLabel : Bool) (n : Node) : Option String :=
  if behindLabel then none else guardBehind? guards n

/-- The rewriting that puts in the declarations. -/
def declaring (guards : Guards) : Rewriting := fun parent old new =>
  match guardBehind? guards old with
  | none => .become new
  | some guard =>
    if parent.any isLabeled then .become new else .splice [declaration guard, new]

/-- A node with the declarations put in below it. -/
def declareBelow (guards : Guards) (n : Node) : Node :=
  n.mapBelow (fun c => ((declaring guards).run (some n) c).single c)
    fun c => ((declaring guards).run (some n) c).items

/-- A node with its declaration in a slot for one node. -/
def declareOne (guards : Guards) (behindLabel : Bool) (n : Node) : Node :=
  match guardInFront? guards behindLabel n with
  | none => declareBelow guards n
  | some guard => .blockStatement [declaration guard, declareBelow guards n] n.loc

/-- A node with its declaration in a list. -/
def declareMany (guards : Guards) (behindLabel : Bool) (n : Node) : List Node :=
  (guardInFront? guards behindLabel n).toList.map declaration ++ [declareBelow guards n]

theorem run_declaring (guards : Guards) (parent : Option Node) (n : Node) :
    ((declaring guards).run parent n).single n = declareOne guards (parent.any isLabeled) n
      ∧ ((declaring guards).run parent n).items = declareMany guards (parent.any isLabeled) n := by
  have h : (declaring guards).run parent n = declaring guards parent n (declareBelow guards n) :=
    Rewriting.run_eq _ _ _
  rw [h, declaring, declareOne, declareMany, guardInFront?]
  cases hg : guardBehind? guards n with
  | none => cases parent.any isLabeled <;> exact ⟨rfl, rfl⟩
  | some guard => cases parent.any isLabeled <;> exact ⟨rfl, rfl⟩

theorem declareBelow_eq (guards : Guards) (n : Node) : declareBelow guards n
    = n.mapBelow (declareOne guards (isLabeled n)) (declareMany guards (isLabeled n)) :=
  Node.mapBelow_congr fun c _ => run_declaring guards (some n) c

theorem declareGuards_eq (guards : Guards) (root : Node) :
    declareGuards guards root = declareOne guards false root :=
  (run_declaring guards none root).1

theorem flatMap_children_withLoopBody {α : Type} {f : Node → List α} {n body : Node} {l : Loop}
    (hl : n.loop? = some l) (h : f body = f l.body) :
    (n.withLoopBody body).children.flatMap f = n.children.flatMap f := by
  cases n <;> simp only [Node.loop?, Option.some.injEq, reduceCtorEq] at hl <;> subst hl <;>
    simp only [Node.withLoopBody, Node.children, Node.slots, List.flatMap_cons, List.flatMap_append,
      Slot.nodes, List.flatMap_nil, h]

theorem loopIds_guardStatements (guard : String) (max : Int) :
    (guardStatements guard max).flatMap Node.loopIds = [] := by
  simp [guardStatements, increment, check, Node.loopIds_eq, Node.loopId?, Node.loop?, Node.children,
    Node.slots, Slot.nodes]

theorem loopIds_declaration (guard : String) : (declaration guard).loopIds = [] := by
  simp [declaration, Node.loopIds_eq, Node.loopId?, Node.loop?, Node.children, Node.slots,
    Slot.nodes]

theorem guardBodies_of_no_guard {guards : Guards} {n : Node}
    (h : ∀ k ∈ n.loopIds, guards.of k = []) (max : Int) : guardBodies guards max n = n := by
  induction n using Node.induction_children with
  | h n ih =>
    have hbelow : ∀ c ∈ n.children, guardBodies guards max c = c := fun c hc =>
      ih c hc fun k hk => h k (Node.mem_loopIds_of_mem_children hc hk)
    rw [guardBodies_eq, Node.mapBelow_id fun c hc => ⟨hbelow c hc, by rw [hbelow c hc]⟩]
    refine guardLoop_of_no_guard fun k hk => h k ?_
    rw [Node.loopIds_eq, hk]
    exact List.mem_append_left _ List.mem_cons_self

theorem guardInFront?_of_no_guard {guards : Guards} {n : Node}
    (h : ∀ k ∈ n.loopIds, guards.lookup k = none) (behindLabel : Bool) :
    guardInFront? guards behindLabel n = none := by
  rw [guardInFront?, guardBehind?_eq]
  cases hk : loopBehind? n with
  | none => cases behindLabel <;> rfl
  | some k =>
    rw [Option.bind_some, h k (loopBehind?_mem hk)]
    cases behindLabel <;> rfl

theorem declareBelow_of_no_guard {guards : Guards} {n : Node}
    (h : ∀ k ∈ n.loopIds, guards.lookup k = none) : declareBelow guards n = n := by
  induction n using Node.induction_children with
  | h n ih =>
    rw [declareBelow_eq]
    refine Node.mapBelow_id fun c hc => ?_
    have hkeep : ∀ k ∈ c.loopIds, guards.lookup k = none := fun k hk =>
      h k (Node.mem_loopIds_of_mem_children hc hk)
    rw [declareOne, declareMany, guardInFront?_of_no_guard hkeep, ih c hc hkeep]
    exact ⟨rfl, rfl⟩

theorem declareGuards_of_no_guard {guards : Guards} {n : Node}
    (h : ∀ k ∈ n.loopIds, guards.lookup k = none) : declareGuards guards n = n := by
  rw [declareGuards_eq, declareOne, guardInFront?_of_no_guard h]
  exact declareBelow_of_no_guard h

end LoopBound.Guard
