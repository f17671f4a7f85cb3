import LoopBound.Proofs.Guard.Count

/-!
# Where guards stand

In the guarded tree the body of every guarded loop begins with the guard statements, and the
declaration stands right in front of the loop, or of its outermost label, in a list of statements.
Other loops get nothing.

What is to hold is said of one node at a time (`GuardedNode`), and a guarded tree is one all of
whose nodes are so. The induction adds a node to what stands below it; a loop in a slot for one
statement is the place where a block comes into being, so no such loop is left in such a slot.
-/

namespace LoopBound.Guard

open LoopBound.Syntax LoopBound.Reading

/-- The list of statements that a node holds. -/
def statementList? : Node → Option (List Node)
  | .program ns _ | .blockStatement ns _ | .switchCase _ ns _ => some ns
  | _ => none

variable {guards : Guards} {max : Int}

theorem statementList?_mapBelow (single : Node → Node) (splice : Node → List Node) (n : Node) :
    statementList? (n.mapBelow single splice) = (statementList? n).map (·.flatMap splice) := by
  cases n <;> rfl

theorem mem_children_of_statementList? {n : Node} {ns : List Node} (h : statementList? n = some ns)
    {c : Node} (hc : c ∈ ns) : c ∈ n.children := by
  cases n <;> simp only [statementList?, Option.some.injEq, reduceCtorEq] at h <;> subst h <;>
    simp [Node.children, Node.slots, Slot.nodes, hc]

theorem guardBehind?_of_no_loops {n : Node} (h : n.loopIds = []) :
    guardBehind? guards n = none ∧ Quiet n := by
  have hquiet : Quiet n := by
    rw [Quiet]
    cases hk : loopBehind? n with
    | none => rfl
    | some k =>
      have hmem := loopBehind?_mem hk
      rw [h] at hmem
      simp at hmem
  exact ⟨guardBehind?_of_quiet hquiet, hquiet⟩

/-- No guard of the list is named in the tree. -/
def Fresh (guards : Guards) (n : Node) : Prop :=
  ∀ k guard, guards.lookup k = some guard → guard ∉ n.identifiers

theorem statementList?_of_holds {n : Node} {cs : List Node} (h : holdsStatements n = true)
    (hcs : Slot.many cs ∈ n.slots) : statementList? n = some cs := by
  cases n <;> simp_all [holdsStatements, statementList?, Node.slots]

theorem statementList?_of_labeled {n : Node} (h : isLabeled n = true) :
    statementList? n = none ∧ n.loop? = none := by
  obtain ⟨label, body, p, rfl⟩ := isLabeled_eq_true.1 h
  exact ⟨rfl, rfl⟩

theorem statementList?_of_loop {n : Node} {l : Loop} (h : n.loop? = some l) :
    statementList? n = none := by
  cases n <;> first | rfl | simp [Node.loop?] at h

theorem mem_children_withLoopBody {n body d : Node} (h : d ∈ (n.withLoopBody body).children) :
    d = body ∨ d ∈ n.children := by
  revert h
  cases n <;> simp only [Node.withLoopBody, Node.children, Node.slots, Slot.nodes, List.flatMap_cons,
      List.flatMap_nil, List.mem_append, List.mem_singleton, List.not_mem_nil] <;>
    grind

/-- A loop of a tree is, behind its labels, the tree itself or stands right below a node that is no
label. -/
theorem exists_holder {n : Node} (hlabel : ∀ d ∈ n.preorder, ∀ l body p,
      d = .labeledStatement l body p → Quiet l) {k : LoopId} (hk : k ∈ n.loopIds) :
    loopBehind? n = some k
      ∨ ∃ d ∈ n.preorder, isLabeled d = false ∧ ∃ c ∈ d.children, loopBehind? c = some k := by
  induction n using Node.induction_children with
  | h n ih =>
    have hself := Node.mem_preorder_self n
    rw [Node.loopIds_eq] at hk
    rcases List.mem_append.1 hk with hk | hk
    · left
      have hid : n.loopId? = some k := Option.mem_toList.1 hk
      have hl : isLabeled n = false := by
        by_contra hl
        rw [loopId?_of_labeled (by simpa using hl)] at hid
        simp at hid
      rw [loopBehind?_of_not_labeled hl, hid]
    · obtain ⟨c, hc, hk⟩ := List.mem_flatMap.1 hk
      have hbelow := ih c hc (fun d hd => hlabel d (Node.mem_preorder_of_mem_children hc hd)) hk
      rcases hbelow with hbehind | ⟨d, hd, hholder⟩
      · cases hl : isLabeled n with
        | false => exact Or.inr ⟨n, hself, hl, c, hc, hbehind⟩
        | true =>
          obtain ⟨label, body, p, rfl⟩ := isLabeled_eq_true.1 hl
          have hc : c = label ∨ c = body := by
            simpa [Node.children, Node.slots, Slot.nodes] using hc
          rcases hc with rfl | rfl
          · rw [hlabel _ hself c body p rfl] at hbehind
            simp at hbehind
          · exact Or.inl hbehind
      · exact Or.inr ⟨d, Node.mem_preorder_of_mem_children hc hd, hholder⟩

variable {root : Node} {kinds : List LoopKind} {c : Context} {loops : List FoundLoop}
  {stem? : Option String}

theorem Chosen.fresh (h : Chosen root kinds c loops stem?) (hroot : root.DistinctLoops) :
    Fresh (guardsOf loops stem?) root := by
  intro k guard hk
  obtain ⟨l, hl, -, rfl⟩ := (h.lookup_eq_some hroot).1 hk
  exact h.guard_not_mem (List.mem_map_of_mem hl)

end LoopBound.Guard
