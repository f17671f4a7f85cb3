import LoopBound.Guard.Locate
import LoopBound.Proofs.Guard.Digits
import LoopBound.Proofs.Syntax.Identifiers
import Mathlib.Data.List.Nodup

/-!
# Guard names are fresh

A search hands out consecutive numbers, and it starts above every number that an identifier of the
tree spells behind the same stem. A name that it makes spells its own number, so an identifier that
had this name would have been met by the scan, and the number would lie below the start.

The scan looks at the walk, and the walk reaches every identifier (`identifiers_eq_preorder`), so
freshness is about all names in the tree, wherever they stand.
-/

namespace LoopBound.Guard

open LoopBound.Syntax

/-- The highest number that a name spells behind the stem; 0 if none spells one. -/
structure IsHighest (stem : String) (names : List String) (h : Nat) : Prop where
  /-- No name spells a higher one. -/
  above : ∀ name ∈ names, ∀ n, Spells stem name n → n ≤ h
  /-- Unless it is 0, some name spells it. -/
  reached : h ≠ 0 → ∃ name ∈ names, Spells stem name h

/-! ## The scan -/

theorem foldl_max_eq {ns : List Nat} {m : Nat} :
    ns.foldl max m = max m (ns.foldl max 0) := by
  induction ns generalizing m with
  | nil => simp
  | cons n ns ih =>
    rw [List.foldl_cons, List.foldl_cons, ih, ih (m := max 0 n)]
    omega

theorem le_foldl_max {ns : List Nat} {n : Nat} (h : n ∈ ns) : n ≤ ns.foldl max 0 := by
  induction ns with
  | nil => simp at h
  | cons m ns ih =>
    rw [List.foldl_cons, foldl_max_eq]
    rcases List.mem_cons.1 h with rfl | h
    · omega
    · have := ih h
      omega

theorem foldl_max_mem {ns : List Nat} (h : ns.foldl max 0 ≠ 0) : ns.foldl max 0 ∈ ns := by
  induction ns with
  | nil => exact absurd rfl h
  | cons m ns ih =>
    rw [List.foldl_cons, foldl_max_eq] at h ⊢
    by_cases hm : ns.foldl max 0 ≤ m
    · have he : max (max 0 m) (ns.foldl max 0) = m := by omega
      rw [he]
      exact List.mem_cons_self
    · have he : max (max 0 m) (ns.foldl max 0) = ns.foldl max 0 := by omega
      rw [he]
      exact List.mem_cons_of_mem _ (ih (by omega))

/-- The numbers that the scan collects are those that the names of the tree spell. -/
theorem mem_numbers {stem : String} {root : Node} {n : Nat} :
    n ∈ root.preorder.filterMap (nodeNumber? stem) ↔
      ∃ name ∈ root.identifiers, Spells stem name n := by
  rw [List.mem_filterMap]
  constructor
  · rintro ⟨d, hd, hn⟩
    cases d with
    | identifier name p => exact ⟨name, Node.mem_identifiers.2 ⟨p, hd⟩, numberIn?_eq_some_iff.1 hn⟩
    | _ => simp [nodeNumber?] at hn
  · rintro ⟨name, hname, hn⟩
    obtain ⟨p, hp⟩ := Node.mem_identifiers.1 hname
    exact ⟨_, hp, numberIn?_eq_some_iff.2 hn⟩

theorem isHighest_highestNumber (stem : String) (root : Node) :
    IsHighest stem root.identifiers (highestNumber stem root) where
  above := by
    intro name hname n hn
    exact le_foldl_max (mem_numbers.2 ⟨name, hname, hn⟩)
  reached := by
    intro h
    exact mem_numbers.1 (foldl_max_mem h)

/-! ## The search -/

/-- The loops among the sightings of a search. -/
theorem sightings_orders (kinds : List LoopKind) (ns : List Node) (c : Context) :
    ((sightings kinds c ns).1.filterMap Sighting.loop?).map (·.order)
      = List.range' (c.counter + 1)
          ((sightings kinds c ns).1.filterMap Sighting.loop?).length := by
  induction ns generalizing c with
  | nil => rfl
  | cons n ns ih =>
    rw [sightings]
    split
    · exact ih c
    · rename_i l _
      by_cases hk : l.kind ∈ kinds
      · rw [if_pos hk]
        simp only [List.filterMap_cons, Sighting.loop?, List.map_cons, List.length_cons, ih,
          List.range'_succ]
        simp only [Context.allocate]
      · rw [if_neg hk]
        exact ih c

theorem sightings_stem (kinds : List LoopKind) (ns : List Node) (c : Context) :
    (sightings kinds c ns).2.stem = c.stem := by
  induction ns generalizing c with
  | nil => rfl
  | cons n ns ih =>
    rw [sightings]
    split
    · exact ih c
    · rename_i l _
      by_cases hk : l.kind ∈ kinds
      · rw [if_pos hk]
        exact ih c.allocate.2
      · rw [if_neg hk]
        exact ih c

theorem sightings_guard {kinds : List LoopKind} {ns : List Node} {c : Context} {l : FoundLoop}
    (h : l ∈ (sightings kinds c ns).1.filterMap Sighting.loop?) :
    l.guard = guardName c.stem l.order := by
  induction ns generalizing c with
  | nil => simp [sightings] at h
  | cons n ns ih =>
    rw [sightings] at h
    split at h
    · exact ih h
    · rename_i l' _
      by_cases hk : l'.kind ∈ kinds
      · rw [if_pos hk] at h
        simp only [List.filterMap_cons, Sighting.loop?, List.mem_cons] at h
        rcases h with rfl | h
        · simp only [Context.nameFor, sightings_stem, Context.allocate]
        · exact ih (c := c.allocate.2) h
      · rw [if_neg hk] at h
        exact ih h

/-- The numbers of located loops run on from the counter or from the highest number in the tree. -/
theorem locate_orders (root : Node) (kinds : List LoopKind) (c : Context) :
    (locate root kinds c).1.map (·.order)
      = List.range' (max c.counter (highestNumber c.stem root) + 1)
          (locate root kinds c).1.length :=
  sightings_orders kinds root.preorder _

theorem locate_guard {root : Node} {kinds : List LoopKind} {c : Context} {l : FoundLoop}
    (h : l ∈ (locate root kinds c).1) : l.guard = guardName c.stem l.order :=
  sightings_guard (c := c.skipPast (highestNumber c.stem root)) h

theorem highestNumber_lt_order {root : Node} {kinds : List LoopKind} {c : Context} {l : FoundLoop}
    (h : l ∈ (locate root kinds c).1) : highestNumber c.stem root < l.order := by
  have hmem : l.order ∈ (locate root kinds c).1.map (·.order) := List.mem_map_of_mem h
  rw [locate_orders, List.mem_range'_1] at hmem
  omega

theorem locate_orders_nodup (root : Node) (kinds : List LoopKind) (c : Context) :
    ((locate root kinds c).1.map (·.order)).Nodup := by
  rw [locate_orders]
  exact List.nodup_range'

/-- No two located loops share a guard name. -/
theorem locate_guards_nodup (root : Node) (kinds : List LoopKind) (c : Context) :
    ((locate root kinds c).1.map (·.guard)).Nodup := by
  have hguards : (locate root kinds c).1.map (·.guard)
      = ((locate root kinds c).1.map (·.order)).map (fun n : Nat => guardName c.stem n) := by
    rw [List.map_map]
    exact List.map_congr_left fun l hl => locate_guard hl
  rw [hguards]
  exact (locate_orders_nodup root kinds c).map fun _ _ h => guardName_injective h

/-- A name that is made for a loop stands nowhere in the tree. -/
theorem locate_guard_not_mem {root : Node} {kinds : List LoopKind} {c : Context} {l : FoundLoop}
    (h : l ∈ (locate root kinds c).1) : l.guard ∉ root.identifiers := by
  intro hmem
  have hspells : Spells c.stem l.guard l.order := by
    rw [locate_guard h]
    exact numberIn?_eq_some_iff.1 (numberIn?_guardName c.stem l.order)
  have hle := (isHighest_highestNumber c.stem root).above _ hmem _ hspells
  have hlt := highestNumber_lt_order h
  omega

/-- **Guard names never capture.** In any tree and with any context, the names that a search makes
are distinct, stand nowhere in the tree, and carry consecutive numbers that begin right above the
counter and above every number that a name of the tree spells behind the stem. -/
theorem locate_names_fresh (root : Node) (kinds : List LoopKind) (c : Context) :
    ((locate root kinds c).1.map (·.guard)).Nodup
      ∧ (∀ l ∈ (locate root kinds c).1,
          l.guard = guardName c.stem l.order ∧ l.guard ∉ root.identifiers)
      ∧ ∃ h, IsHighest c.stem root.identifiers h
          ∧ (locate root kinds c).1.map (·.order)
            = List.range' (max c.counter h + 1) (locate root kinds c).1.length := by
  refine ⟨locate_guards_nodup root kinds c, ?_, highestNumber c.stem root,
    isHighest_highestNumber c.stem root, locate_orders root kinds c⟩
  intro l hl
  exact ⟨locate_guard hl, locate_guard_not_mem hl⟩

/-- A loop beside a name that spells 3 with a digit of another script. -/
def scriptedTree : Node :=
  .program [.expressionStatement (.identifier "loopGuard_٣" {}) {},
    .whileStatement 0 (.identifier "x" {}) (.emptyStatement {}) {}] {}

theorem preorder_scriptedTree : scriptedTree.preorder =
    [scriptedTree, .expressionStatement (.identifier "loopGuard_٣" {}) {},
      .identifier "loopGuard_٣" {}, .whileStatement 0 (.identifier "x" {}) (.emptyStatement {}) {},
      .identifier "x" {}, .emptyStatement {}] := by
  simp [scriptedTree, Node.preorder_eq, Node.children, Node.slots, Slot.nodes]

/-- The loop is found under the number 4, and its name is new to the tree. -/
theorem locate_names_fresh_scripted :
    (⟨0, .while, 4, "loopGuard_4", {}⟩ : FoundLoop) ∈ (locate scriptedTree LoopKind.all {}).1
      ∧ "loopGuard_4" ∉ scriptedTree.identifiers := by
  have hmem : (⟨0, .while, 4, "loopGuard_4", {}⟩ : FoundLoop)
      ∈ (locate scriptedTree LoopKind.all {}).1 := by
    unfold locate survey highestNumber
    rw [preorder_scriptedTree]
    decide +kernel
  exact ⟨hmem, ((locate_names_fresh scriptedTree LoopKind.all {}).2.1 _ hmem).2⟩

end LoopBound.Guard
