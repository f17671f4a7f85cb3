import LoopBound.Proofs.Guard.Carry

/-!
# Guarding in batches

Loops that were located together may be guarded together, or some first and the others later, in
either order: the tree is the same. A loop of one batch may be the bare body of a loop of the other,
or stand alone in a branch behind a label; whoever comes first makes the block, and the second finds
it there.

Both ways give a tree that carries the same guards, so nothing has to be said about blocks here. As
no loop is in both batches, no loop gets two guards, and their order cannot matter.
-/

namespace LoopBound.Guard

open LoopBound.Syntax LoopBound.Reading

/-- Marks of two batches that share no loop are marks of the batches put together. -/
theorem push_push {guards guards₁ guards₂ : Guards}
    (hjoin : ∀ k name, guards.lookup k = some name ↔
      guards₁.lookup k = some name ∨ guards₂.lookup k = some name)
    (hdisjoint : ∀ k, guards₁.lookup k = none ∨ guards₂.lookup k = none)
    (marks : Marks) (max : Int) :
    (marks.push guards₁ max).push guards₂ max = marks.push guards max := by
  funext k
  have hlookup : guards.lookup k = (guards₁.lookup k).or (guards₂.lookup k) := by
    refine Option.ext fun name => ?_
    rw [hjoin]
    rcases hdisjoint k with h | h
    · simp [h]
    · cases guards₁.lookup k <;> simp [h]
  simp only [Marks.push, hlookup]
  rcases hdisjoint k with h | h
  · simp [h]
  · cases guards₁.lookup k <;> simp [h]

variable {root : Node} {kinds : List LoopKind} {c : Context} {first second all : List FoundLoop}

/-- Loops of two choices that share no loop have different numbers. -/
theorem Chosen.lookup_disjoint (h₁ : Chosen root kinds c first none)
    (h₂ : Chosen root kinds c second none) (hroot : root.DistinctLoops)
    (hdisjoint : first.Disjoint second) (k : LoopId) :
    (guardsOf first none).lookup k = none ∨ (guardsOf second none).lookup k = none := by
  cases hfirst : (guardsOf first none).lookup k with
  | none => exact .inl rfl
  | some name =>
    cases hsecond : (guardsOf second none).lookup k with
    | none => exact .inr rfl
    | some name' =>
      obtain ⟨l, hl, hk, -⟩ := (h₁.lookup_eq_some hroot).1 hfirst
      obtain ⟨l', hl', hk', -⟩ := (h₂.lookup_eq_some hroot).1 hsecond
      have hids : ((locate root kinds c).1.map (·.id)).Nodup :=
        (locate_ids root kinds c).nodup hroot
      have hsame : l = l' := List.inj_on_of_nodup_map hids (h₁.located l hl) (h₂.located l' hl')
        (hk.trans hk'.symm)
      subst hsame
      exact absurd hl' (hdisjoint hl)

/-- Both batches together are a choice. -/
theorem Chosen.join (h₁ : Chosen root kinds c first none) (h₂ : Chosen root kinds c second none)
    (hdisjoint : first.Disjoint second) (hall : all.Perm (first ++ second)) :
    Chosen root kinds c all none where
  located := by
    intro l hl
    rcases List.mem_append.1 (hall.subset hl) with hl | hl
    · exact h₁.located l hl
    · exact h₂.located l hl
  once := hall.nodup_iff.2 (List.nodup_append'.2 ⟨h₁.once, h₂.once, hdisjoint⟩)
  stem := .inl rfl

/-- One batch after the other is both at once. -/
theorem Chosen.inject_inject (h₁ : Chosen root kinds c first none)
    (h₂ : Chosen root kinds c second none) (hread : ReadTree root)
    (hdisjoint : first.Disjoint second) (hall : all.Perm (first ++ second)) (max : Int) :
    inject (inject root first max none) second max none = inject root all max none := by
  have h := h₁.join h₂ hdisjoint hall
  have hroot := hread.distinct
  obtain ⟨ns, p, rfl⟩ := hread.program
  have hjoin : ∀ k name, (guardsOf all none).lookup k = some name ↔
      (guardsOf first none).lookup k = some name ∨ (guardsOf second none).lookup k = some name := by
    intro k name
    rw [h.lookup_eq_some hroot, h₁.lookup_eq_some hroot, h₂.lookup_eq_some hroot]
    simp only [hall.mem_iff, List.mem_append, or_and_right, exists_or]
  have hone := @inject_carry .empty ns p first none (h₁.keys_nodup hroot) max
  have hall := @inject_carry .empty ns p all none (h.keys_nodup hroot) max
  rw [carry_empty] at hone hall
  rw [hone, hall, inject_carry (h₂.keys_nodup hroot),
    push_push hjoin (h₁.lookup_disjoint h₂ hroot hdisjoint)]

/-- **Guarding does not depend on order and batching.** Two batches of loops that were located
together and share no loop give the same tree one after the other, in either order, and in one
call with any list of all their loops. -/
theorem inject_batches {text : String} {t : Node} (ht : parse text = .ok t) {kinds : List LoopKind}
    {c : Context} {first second all : List FoundLoop} (h₁ : Chosen t kinds c first none)
    (h₂ : Chosen t kinds c second none) (hdisjoint : first.Disjoint second)
    (hall : all.Perm (first ++ second)) (max : Int) :
    inject (inject t first max none) second max none = inject t all max none
      ∧ inject (inject t second max none) first max none = inject t all max none := by
  have hread := readTree_of_parse ht
  exact ⟨h₁.inject_inject h₂ hread hdisjoint hall max,
    h₂.inject_inject h₁ hread (List.disjoint_comm.1 hdisjoint) (hall.trans List.perm_append_comm) max⟩

/-! ## A loop with a loop as its body -/

/-- A loop whose body is a loop behind a label. -/
def nestedText : String :=
  "while(a)b:for(;;)c"

/-- The tree of the two loops, with these numbers. -/
def nestedTree (outer inner : LoopId) : Node :=
  .program [.whileStatement outer (.identifier "a" ⟨1, 7⟩)
    (.labeledStatement (.identifier "b" ⟨1, 9⟩)
      (.forStatement inner none none none
        (.expressionStatement (.identifier "c" ⟨1, 18⟩) ⟨1, 18⟩) ⟨1, 11⟩) ⟨1, 9⟩) ⟨1, 1⟩] ⟨1, 1⟩

/-- The tree is that of the two loops, without numbers. -/
def isNested : Node → Bool
  | .program [.whileStatement 0 (.identifier "a" ⟨1, 7⟩)
      (.labeledStatement (.identifier "b" ⟨1, 9⟩)
        (.forStatement 0 none none none
          (.expressionStatement (.identifier "c" ⟨1, 18⟩) ⟨1, 18⟩) ⟨1, 11⟩) ⟨1, 9⟩) ⟨1, 1⟩]
      ⟨1, 1⟩ => true
  | _ => false

theorem eq_nested {n : Node} (h : isNested n = true) : n = nestedTree 0 0 := by
  unfold isNested at h
  split at h
  · rfl
  · simp at h

theorem parse_nestedText : parse nestedText = .ok (nestedTree 0 1) := by
  have hsome : ((unnumbered? nestedText).any isNested) = true := by decide +kernel
  obtain ⟨n, hn, hnested⟩ := (Option.any_eq_true _ _).1 hsome
  have hnumber : (nestedTree 0 0).number = nestedTree 0 1 := by
    simp only [nestedTree, Node.number, Node.numberFrom_eq, Node.numberAll, Node.children,
      Node.slots, Slot.nodes, Node.withLoopId, List.flatMap_cons, List.flatMap_nil,
      List.cons_append, List.nil_append, Option.toList]
    rfl
  rw [parse_of_unnumbered hn, eq_nested hnested, hnumber]

/-- The loops of the text as a search finds them. -/
def outerLoop : FoundLoop :=
  ⟨0, .while, 1, "loopGuard_1", ⟨1, 1⟩⟩

/-- The loop that is the body of the other. -/
def innerLoop : FoundLoop :=
  ⟨1, .for, 2, "loopGuard_2", ⟨1, 11⟩⟩

theorem locate_nested : (locate (nestedTree 0 1) LoopKind.all {}).1 = [outerLoop, innerLoop] := by
  unfold locate survey highestNumber
  simp only [nestedTree, Node.preorder_eq, Node.children, Node.slots, Slot.nodes,
    List.flatMap_cons, List.flatMap_nil, List.cons_append, List.nil_append, Option.toList]
  decide +kernel

theorem chosen_nested {l : FoundLoop} (h : l ∈ [outerLoop, innerLoop]) :
    Chosen (nestedTree 0 1) LoopKind.all {} [l] none where
  located := by
    intro l' hl'
    rw [locate_nested, List.mem_singleton.1 hl']
    exact h
  once := List.nodup_singleton l
  stem := .inl rfl

/-- The outer loop first and the inner one later, or both at once. -/
theorem inject_batches_nested : parse nestedText = .ok (nestedTree 0 1)
    ∧ Chosen (nestedTree 0 1) LoopKind.all {} [outerLoop] none
    ∧ Chosen (nestedTree 0 1) LoopKind.all {} [innerLoop] none
    ∧ [outerLoop].Disjoint [innerLoop]
    ∧ [innerLoop, outerLoop].Perm ([outerLoop] ++ [innerLoop])
    ∧ inject (inject (nestedTree 0 1) [outerLoop] 3 none) [innerLoop] 3 none
      = inject (nestedTree 0 1) [innerLoop, outerLoop] 3 none := by
  have houter := @chosen_nested outerLoop (by simp)
  have hinner := @chosen_nested innerLoop (by simp)
  have hdisjoint : [outerLoop].Disjoint [innerLoop] := by
    intro l hl hl'
    rw [List.mem_singleton] at hl hl'
    exact absurd (hl.symm.trans hl') (by decide)
  have hall : [innerLoop, outerLoop].Perm ([outerLoop] ++ [innerLoop]) :=
    List.Perm.swap outerLoop innerLoop []
  exact ⟨parse_nestedText, houter, hinner, hdisjoint, hall,
    (inject_batches parse_nestedText houter hinner hdisjoint hall 3).1⟩

end LoopBound.Guard
