import LoopBound.Proofs.Guard.Fresh

/-!
# One supply of guard names

A context may be shared: numbers are taken from it by hand, it is moved on by hand, and one tree
after the other is searched with it. Whatever the order of these calls, each number it hands out is
above all earlier ones, and the list it keeps is the list of the names of these numbers.

What carries this is that the counter bounds every number handed out so far (`Supplied`). A call may
raise the counter without handing out anything, so the numbers need not be consecutive.
-/

namespace LoopBound.Guard

open LoopBound.Syntax

/-- A call that is made on a context. -/
inductive Call where
  | allocate
  | skipPast (order : Int)
  | nameFor (order : Int)
  | locate (root : Node) (kinds : List LoopKind)

/-- The numbers that a call hands out, and the context behind it. -/
def Call.answer (c : Context) : Call → List Nat × Context
  | allocate => ([c.allocate.1], c.allocate.2)
  | skipPast order => ([], c.skipPast order)
  | nameFor _ => ([], c)
  | locate root kinds =>
    ((Guard.locate root kinds c).1.map (·.order), (Guard.locate root kinds c).2)

/-- The numbers that one call after the other hands out, and the context behind the last. -/
def answers : Context → List Call → List Nat × Context
  | c, [] => ([], c)
  | c, call :: calls =>
    let (numbers, c) := call.answer c
    let (more, c) := answers c calls
    (numbers ++ more, c)

/-! ## The context behind a search -/

theorem sightings_counter (kinds : List LoopKind) (ns : List Node) (c : Context) :
    (sightings kinds c ns).2.counter
      = c.counter + ((sightings kinds c ns).1.filterMap Sighting.loop?).length := by
  induction ns generalizing c with
  | nil => rfl
  | cons n ns ih =>
    rw [sightings]
    split
    · exact ih c
    · rename_i l _
      by_cases hk : l.kind ∈ kinds
      · rw [if_pos hk]
        simp only [List.filterMap_cons, Sighting.loop?, List.length_cons, ih, Context.allocate]
        omega
      · rw [if_neg hk]
        exact ih c

theorem sightings_allocated (kinds : List LoopKind) (ns : List Node) (c : Context) :
    (sightings kinds c ns).2.allocated
      = c.allocated ++ ((sightings kinds c ns).1.filterMap Sighting.loop?).map (·.guard) := by
  induction ns generalizing c with
  | nil => simp [sightings]
  | cons n ns ih =>
    rw [sightings]
    split
    · exact ih c
    · rename_i l _
      by_cases hk : l.kind ∈ kinds
      · rw [if_pos hk]
        simp only [List.filterMap_cons, Sighting.loop?, List.map_cons, ih, Context.allocate,
          Context.nameFor, sightings_stem, List.append_assoc, List.singleton_append]
      · rw [if_neg hk]
        exact ih c

theorem locate_counter (root : Node) (kinds : List LoopKind) (c : Context) :
    (locate root kinds c).2.counter
      = max c.counter (highestNumber c.stem root) + (locate root kinds c).1.length :=
  sightings_counter kinds root.preorder _

theorem locate_allocated (root : Node) (kinds : List LoopKind) (c : Context) :
    (locate root kinds c).2.allocated
      = c.allocated ++ (locate root kinds c).1.map (·.guard) :=
  sightings_allocated kinds root.preorder _

theorem locate_stem (root : Node) (kinds : List LoopKind) (c : Context) :
    (locate root kinds c).2.stem = c.stem :=
  sightings_stem kinds root.preorder _

theorem locate_guards (root : Node) (kinds : List LoopKind) (c : Context) :
    (locate root kinds c).1.map (·.guard)
      = ((locate root kinds c).1.map (·.order)).map (fun n : Nat => guardName c.stem n) := by
  rw [List.map_map]
  exact List.map_congr_left fun l hl => locate_guard hl

/-! ## What every call keeps -/

/-- These numbers were handed out by a context with this stem that began anew. -/
structure Supplied (stem : String) (numbers : List Nat) (c : Context) : Prop where
  /-- The stem stays. -/
  stem_eq : c.stem = stem
  /-- Each number is above the earlier ones. -/
  rising : numbers.Pairwise (· < ·)
  /-- The counter is below none of them. -/
  bounded : ∀ n ∈ numbers, n ≤ c.counter
  /-- The names on record are theirs. -/
  record : c.allocated = numbers.map fun n : Nat => guardName stem n

/-- Numbers that rise above a bound go on a rising list below it. -/
theorem rising_append {ns ms : List Nat} {bound : Nat} (hns : ns.Pairwise (· < ·))
    (hle : ∀ n ∈ ns, n ≤ bound) (hms : ms.Pairwise (· < ·)) (hlt : ∀ m ∈ ms, bound < m) :
    (ns ++ ms).Pairwise (· < ·) := by
  rw [List.pairwise_append]
  refine ⟨hns, hms, ?_⟩
  intro n hn m hm
  have := hle n hn
  have := hlt m hm
  omega

theorem supplied_reset (c : Context) : Supplied c.stem [] c.reset where
  stem_eq := rfl
  rising := .nil
  bounded := by intro n hn; simp at hn
  record := rfl

theorem Call.counter_le (c : Context) (call : Call) : c.counter ≤ (call.answer c).2.counter := by
  cases call with
  | allocate => exact Nat.le_succ _
  | skipPast order => exact Nat.le_max_left _ _
  | nameFor order => exact Nat.le_refl _
  | locate root kinds =>
    have hcounter := locate_counter root kinds c
    simp only [Call.answer]
    omega

/-- **Every call keeps the numbers rising and the record complete.** -/
theorem Supplied.step {stem : String} {numbers : List Nat} {c : Context}
    (h : Supplied stem numbers c) (call : Call) :
    Supplied stem (numbers ++ (call.answer c).1) (call.answer c).2 := by
  cases call with
  | allocate =>
    refine ⟨h.stem_eq, ?_, ?_, ?_⟩
    · refine rising_append h.rising h.bounded (List.pairwise_singleton _ _) ?_
      intro m hm
      simp only [Call.answer, Context.allocate, List.mem_singleton] at hm
      omega
    · intro n hn
      simp only [Call.answer, Context.allocate, List.mem_append, List.mem_singleton] at hn ⊢
      rcases hn with hn | rfl
      · have := h.bounded n hn
        omega
      · omega
    · simp [Call.answer, Context.allocate, Context.nameFor, h.record, h.stem_eq]
  | skipPast order =>
    refine ⟨h.stem_eq, ?_, ?_, ?_⟩
    · rw [Call.answer, List.append_nil]
      exact h.rising
    · intro n hn
      rw [Call.answer, List.append_nil] at hn
      have := h.bounded n hn
      simp only [Call.answer, Context.skipPast]
      omega
    · rw [Call.answer, List.append_nil]
      exact h.record
  | nameFor order =>
    rw [Call.answer, List.append_nil]
    exact h
  | locate root kinds =>
    have hcounter := locate_counter root kinds c
    have horders := locate_orders root kinds c
    refine ⟨(locate_stem root kinds c).trans h.stem_eq, ?_, ?_, ?_⟩
    · refine rising_append h.rising h.bounded ?_ ?_
      · rw [Call.answer, horders]
        exact List.pairwise_lt_range'
      · intro m hm
        rw [Call.answer, horders, List.mem_range'_1] at hm
        omega
    · intro n hn
      rw [Call.answer, horders, List.mem_append, List.mem_range'_1] at hn
      simp only [Call.answer]
      rcases hn with hn | hn
      · have := h.bounded n hn
        omega
      · omega
    · simp only [Call.answer]
      rw [locate_allocated, locate_guards, h.record, h.stem_eq, List.map_append]

theorem Supplied.run {stem : String} {numbers : List Nat} {c : Context}
    (h : Supplied stem numbers c) (calls : List Call) :
    Supplied stem (numbers ++ (answers c calls).1) (answers c calls).2 := by
  induction calls generalizing numbers c with
  | nil =>
    rw [answers, List.append_nil]
    exact h
  | cons call calls ih =>
    have hnext := ih (h.step call)
    rw [List.append_assoc] at hnext
    exact hnext

/-- **A supply never hands out a name twice.** After any calls on a context that began anew — a new
one is as if it had just been reset — the numbers handed out rise, the counter is below none of
them and no further call lowers it, the names on record are the names of these numbers and are
distinct, and a search comes upon no name that stands in the tree it is given. -/
theorem supply_never_repeats (c : Context) (calls : List Call) :
    let numbers := (answers c.reset calls).1
    let now := (answers c.reset calls).2
    numbers.Pairwise (· < ·)
      ∧ (∀ n ∈ numbers, n ≤ now.counter)
      ∧ (∀ call : Call, now.counter ≤ (call.answer now).2.counter)
      ∧ now.allocated = numbers.map (fun n : Nat => c.nameFor n)
      ∧ now.allocated.Nodup
      ∧ ∀ root kinds, ∀ l ∈ (locate root kinds now).1,
          l.guard = c.nameFor l.order ∧ l.guard ∉ root.identifiers := by
  have h : Supplied c.stem (answers c.reset calls).1 (answers c.reset calls).2 :=
    (supplied_reset c).run calls
  refine ⟨h.rising, h.bounded, Call.counter_le _, h.record, ?_, ?_⟩
  · rw [h.record]
    have hnodup : (answers c.reset calls).1.Nodup := h.rising.imp fun hlt => Nat.ne_of_lt hlt
    exact hnodup.map fun _ _ he => guardName_injective he
  · intro root kinds l hl
    refine ⟨?_, locate_guard_not_mem hl⟩
    rw [locate_guard hl, h.stem_eq, Context.nameFor]

/-- Numbers taken by hand, a counter moved on by hand, and a tree that spells 3. -/
theorem supply_never_repeats_mixed :
    let calls := [.allocate, .skipPast 1, .locate scriptedTree LoopKind.all, .skipPast 7,
      .nameFor 2, .allocate]
    (answers {} calls).1 = [1, 4, 8]
      ∧ (answers {} calls).2.allocated = ["loopGuard_1", "loopGuard_4", "loopGuard_8"]
      ∧ (answers {} calls).2.allocated.Nodup := by
  have hnumbers : (answers {} [.allocate, .skipPast 1, .locate scriptedTree LoopKind.all,
      .skipPast 7, .nameFor 2, .allocate]).1 = [1, 4, 8] := by
    simp only [answers, Call.answer]
    unfold locate survey highestNumber
    rw [preorder_scriptedTree]
    decide +kernel
  have h := supply_never_repeats {} [.allocate, .skipPast 1, .locate scriptedTree LoopKind.all,
    .skipPast 7, .nameFor 2, .allocate]
  refine ⟨hnumbers, ?_, h.2.2.2.2.1⟩
  refine h.2.2.2.1.trans ?_
  change (answers {} _).1.map _ = _
  rw [hnumbers]
  decide +kernel

end LoopBound.Guard
