import LoopBound.Proofs.Guard.Chosen
import LoopBound.Proofs.Guard.Steps
import LoopBound.Proofs.Reading.Formed
import LoopBound.Session

/-!
# Guarding changes nothing else

Taking the guards out of a guarded tree again gives back the tree, except for the blocks that had to
be made: the body of a guarded loop is a block afterwards, and so is the place of a loop that was
the only statement of a branch. `unguarded` takes guards out and knows nothing of how they were put
in; `framed` makes the blocks and touches nothing else.

The proof follows one node through both rewritings and back. A guarded body is taken apart into the
statements of the guard and the statements that were there before.
-/

namespace LoopBound.Guard

open LoopBound.Syntax

/-! ## Taking guards out -/

theorem declareMany_guardStatements (guards : Guards) (guard : String) (max : Int) :
    (guardStatements guard max).flatMap (declareMany guards false) = guardStatements guard max := by
  have hkeep : ∀ s ∈ guardStatements guard max, declareMany guards false s = [s] := by
    intro s hs
    have hids : s.loopIds = [] :=
      List.flatMap_eq_nil_iff.1 (loopIds_guardStatements guard max) s hs
    have hnone : ∀ k ∈ s.loopIds, guards.lookup k = none := by
      rw [hids]
      simp
    rw [declareMany, guardInFront?_of_no_guard hnone, declareBelow_of_no_guard hnone]
    rfl
  rw [List.flatMap_congr hkeep]
  exact List.flatMap_singleton' _

theorem declareOne_block (guards : Guards) (behindLabel : Bool) (ns : List Node)
    (p : Text.Position) : declareOne guards behindLabel (.blockStatement ns p)
      = .blockStatement (ns.flatMap (declareMany guards false)) p := by
  have hnone : guardInFront? guards behindLabel (.blockStatement ns p) = none := by
    cases behindLabel <;> rfl
  rw [declareOne, hnone]
  exact declareBelow_eq guards _

/-- The node is neither a block nor the empty statement, so it is a statement of its own when it
stands as a body. -/
def isSingle : Node → Bool
  | .blockStatement .. | .emptyStatement .. => false
  | _ => true

theorem bodyStatements_of_single {n : Node} (h : isSingle n = true) :
    bodyStatements n = ([n], n.loc) := by
  cases n with
  | blockStatement | emptyStatement => simp [isSingle] at h
  | _ => rfl

theorem isSingle_head (n : Node) : isSingle n.head = isSingle n := by
  cases n <;> rfl

theorem isSingle_mapBelow (single : Node → Node) (splice : Node → List Node) (n : Node) :
    isSingle (n.mapBelow single splice) = isSingle n := by
  rw [← isSingle_head, Node.head_mapBelow, isSingle_head]

theorem isSingle_withLoopBody (n body : Node) : isSingle (n.withLoopBody body) = isSingle n := by
  cases n <;> rfl

theorem isSingle_guardBodies (guards : Guards) (max : Int) (n : Node) :
    isSingle (guardBodies guards max n) = isSingle n := by
  rw [guardBodies_eq, guardLoop]
  split
  · exact isSingle_mapBelow _ _ _
  · rw [isSingle_withLoopBody, isSingle_mapBelow]

/-- The guards are those of these loops, one for each, and have these names. -/
structure Fits (guards : Guards) (names : List String) (ids : List LoopId) : Prop where
  once : (guards.map Prod.fst).Nodup
  named : ∀ k name, guards.lookup k = some name → name ∈ names
  guarded : ∀ k, (guards.lookup k).isSome ↔ k ∈ ids

variable {guards : Guards} {names : List String} {ids : List LoopId} {max : Int}

theorem loopBehind?_guardBodies (guards : Guards) (max : Int) (n : Node) :
    loopBehind? (guardBodies guards max n) = loopBehind? n := by
  induction n using Node.induction_children with
  | h n ih =>
    by_cases hl : isLabeled n = true
    · obtain ⟨label, body, p, rfl⟩ := isLabeled_eq_true.1 hl
      have hbody : body ∈ (Node.labeledStatement label body p).children := by
        simp [Node.children, Node.slots, Slot.nodes]
      rw [guardBodies_eq]
      exact ih body hbody
    · have hl : isLabeled n = false := by simpa using hl
      rw [loopBehind?_of_not_labeled hl, loopBehind?_of_not_labeled
        (by rw [isLabeled_guardBodies, hl]), loopId?_guardBodies]

theorem not_labeled_of_loop {n : Node} {l : Loop} (h : n.loop? = some l) :
    isLabeled n = false := by
  by_contra hlabeled
  have hnone := loopId?_of_labeled (by simpa using hlabeled)
  rw [Node.loopId?, h] at hnone
  simp at hnone

theorem inject_eq (root : Node) (loops : List FoundLoop) (max : Int) (stem? : Option String) :
    inject root loops max stem? = declareGuards (guardsOf loops stem?)
      (guardBodies (guardsOf loops stem?) max root) := by
  rw [inject]
  cases loops with
  | nil =>
    have hnone : guardsOf [] stem? = [] := by
      rw [guardsOf, List.mergeSort_nil]
      rfl
    rw [hnone]
    show root = declareGuards [] (guardBodies [] max root)
    rw [guardBodies_of_no_guard fun _ _ => rfl, declareGuards_of_no_guard fun _ _ => rfl]
  | cons l loops => rfl

/-- A program is no loop, so no declaration stands in front of it. -/
theorem inject_program (ns : List Node) (p : Text.Position) (loops : List FoundLoop) (max : Int)
    (stem? : Option String) : inject (.program ns p) loops max stem?
      = declareBelow (guardsOf loops stem?) (guardBodies (guardsOf loops stem?) max
          (.program ns p)) := by
  have hnone : guardInFront? (guardsOf loops stem?) false
      (guardBodies (guardsOf loops stem?) max (.program ns p)) = none := by
    rw [guardInFront?, guardBehind?_eq, loopBehind?_guardBodies]
    rfl
  rw [inject_eq, declareGuards_eq, declareOne, hnone]

theorem Chosen.fits {root : Node} {kinds : List LoopKind} {c : Context} {loops : List FoundLoop}
    {stem? : Option String} (h : Chosen root kinds c loops stem?) (hroot : root.DistinctLoops) :
    Fits (guardsOf loops stem?) (loops.map (·.guard)) (loops.map (·.id)) where
  once := h.keys_nodup hroot
  named := by
    intro k name hk
    obtain ⟨l, hl, -, rfl⟩ := (h.lookup_eq_some hroot).1 hk
    exact List.mem_map_of_mem hl
  guarded := fun _ => h.lookup_isSome hroot

end LoopBound.Guard
