import LoopBound.Guard.Inject
import LoopBound.Proofs.Guard.Steps
import LoopBound.Proofs.Reading.Parse

/-!
# Chosen loops

Whoever guards a tree chooses some of the loops located in it. This module says what the guards of a
choice are: each chosen loop has exactly one, which is its own name, no two have the same, and none
of the names stands in the tree.
-/

namespace LoopBound.Guard

open LoopBound.Syntax

/-- Some of the loops located in a tree, each once, and a stem that names them as the search did. -/
structure Chosen (root : Node) (kinds : List LoopKind) (c : Context) (loops : List FoundLoop)
    (stem? : Option String) : Prop where
  located : ∀ l ∈ loops, l ∈ (locate root kinds c).1
  once : loops.Nodup
  stem : stem? = none ∨ stem? = some c.stem

/-! ## Numbers of located loops -/

theorem sightings_ids (kinds : List LoopKind) (ns : List Node) (c : Context) :
    (((sightings kinds c ns).1.filterMap Sighting.loop?).map (·.id)).Sublist
      (ns.filterMap Node.loopId?) := by
  induction ns generalizing c with
  | nil => exact List.Sublist.slnil
  | cons n ns ih =>
    rw [sightings, List.filterMap_cons, Node.loopId?]
    cases n.loop? with
    | none => exact ih c
    | some l =>
      simp only [Option.map_some]
      by_cases hk : l.kind ∈ kinds
      · rw [if_pos hk]
        exact (ih c.allocate.2).cons_cons l.id
      · rw [if_neg hk]
        exact (ih c).cons l.id

theorem locate_ids (root : Node) (kinds : List LoopKind) (c : Context) :
    ((locate root kinds c).1.map (·.id)).Sublist root.loopIds :=
  sightings_ids kinds root.preorder _

theorem locate_id_mem {root : Node} {kinds : List LoopKind} {c : Context} {l : FoundLoop}
    (h : l ∈ (locate root kinds c).1) : l.id ∈ root.loopIds :=
  (locate_ids root kinds c).subset (List.mem_map_of_mem h)

/-! ## Guards with one entry a loop -/

theorem of_cons (g : LoopId × String) (guards : Guards) (k : LoopId) :
    Guards.of (g :: guards) k = if g.1 = k then g.2 :: guards.of k else guards.of k := by
  rw [Guards.of, List.filter_cons]
  by_cases h : g.1 = k
  · simp [h, Guards.of]
  · simp [h, Guards.of]

theorem of_eq_nil {guards : Guards} {k : LoopId} (h : k ∉ guards.map Prod.fst) :
    guards.of k = [] := by
  induction guards with
  | nil => rfl
  | cons g guards ih =>
    rw [List.map_cons, List.mem_cons, not_or] at h
    rw [of_cons, if_neg fun he => h.1 he.symm, ih h.2]

/-- Where every loop has one entry, the guards of a loop are the one that is looked up. -/
theorem of_eq_lookup {guards : Guards} (h : (guards.map Prod.fst).Nodup) (k : LoopId) :
    guards.of k = (guards.lookup k).toList := by
  induction guards with
  | nil => rfl
  | cons g guards ih =>
    obtain ⟨j, name⟩ := g
    rw [List.map_cons, List.nodup_cons] at h
    rw [of_cons, List.lookup_cons]
    by_cases hj : j = k
    · subst hj
      rw [if_pos rfl, beq_self_eq_true, of_eq_nil h.1]
      rfl
    · have hbeq : (k == j) = false := beq_false_of_ne fun he => hj he.symm
      rw [if_neg hj, hbeq]
      exact ih h.2

theorem lookup_eq_some {guards : Guards} (h : (guards.map Prod.fst).Nodup) {k : LoopId}
    {name : String} : guards.lookup k = some name ↔ (k, name) ∈ guards := by
  induction guards with
  | nil => simp
  | cons g guards ih =>
    obtain ⟨j, other⟩ := g
    rw [List.map_cons, List.nodup_cons] at h
    rw [List.lookup_cons, List.mem_cons]
    by_cases hj : k = j
    · subst hj
      rw [beq_self_eq_true]
      constructor
      · intro he
        left
        rw [Option.some.injEq] at he
        rw [he]
      · rintro (he | hmem)
        · rw [Prod.mk.injEq] at he
          rw [he.2]
        · exact absurd (List.mem_map_of_mem hmem) h.1
    · rw [beq_false_of_ne hj]
      simp only
      rw [ih h.2]
      constructor
      · exact Or.inr
      · rintro (he | hmem)
        · rw [Prod.mk.injEq] at he
          exact absurd he.1 hj
        · exact hmem

/-! ## One node, guarded or not -/

section

variable {guards : Guards}

/-- The node is no loop with a guard. -/
def Bare (guards : Guards) (n : Node) : Prop :=
  ∀ k, n.loopId? = some k → guards.lookup k = none

theorem bare_or_guarded (guards : Guards) (n : Node) :
    Bare guards n ∨ ∃ l guard, n.loop? = some l ∧ guards.lookup l.id = some guard := by
  cases hl : n.loop? with
  | none =>
    left
    intro k hk
    rw [Node.loopId?, hl] at hk
    simp at hk
  | some l =>
    cases hguard : guards.lookup l.id with
    | none =>
      left
      intro k hk
      rw [Node.loopId?, hl, Option.map_some, Option.some.injEq] at hk
      rw [← hk, hguard]
    | some guard => exact Or.inr ⟨l, guard, rfl, hguard⟩

/-- The node with the bodies and the declarations below it put in, but not its own. -/
def guardedBelow (guards : Guards) (max : Int) (n : Node) : Node :=
  (n.mapBelow (guardBodies guards max) fun c => [guardBodies guards max c]).mapBelow
    (declareOne guards (isLabeled n)) (declareMany guards (isLabeled n))

theorem declareBelow_of_bare (hkeys : (guards.map Prod.fst).Nodup) {n : Node}
    (h : Bare guards n) (max : Int) :
    declareBelow guards (guardBodies guards max n) = guardedBelow guards max n := by
  have hbodies : guardBodies guards max n
      = n.mapBelow (guardBodies guards max) fun c => [guardBodies guards max c] := by
    rw [guardBodies_eq]
    refine guardLoop_of_no_guard fun k hk => ?_
    rw [loopId?_mapBelow] at hk
    rw [of_eq_lookup hkeys, h k hk]
    rfl
  rw [declareBelow_eq, isLabeled_guardBodies, hbodies]
  rfl

theorem loop?_guardedBelow {n : Node} {l : Loop} (hl : n.loop? = some l) (max : Int) :
    (guardedBelow guards max n).loop?
      = some { l with body := declareOne guards (isLabeled n) (guardBodies guards max l.body) } := by
  rw [guardedBelow, loop?_mapBelow, loop?_mapBelow, hl]
  rfl

/-- The new body of a guarded loop goes through the same changes as what stands below. -/
theorem declareBelow_of_guarded (hkeys : (guards.map Prod.fst).Nodup) {n : Node} {l : Loop}
    {guard : String} (hl : n.loop? = some l) (hguard : guards.lookup l.id = some guard)
    (max : Int) : declareBelow guards (guardBodies guards max n)
      = (guardedBelow guards max n).withLoopBody
          (declareOne guards (isLabeled n) (guardBody max (guardBodies guards max l.body) guard)) := by
  have hbodies : guardBodies guards max n
      = (n.mapBelow (guardBodies guards max) fun c => [guardBodies guards max c]).withLoopBody
          (guardBody max (guardBodies guards max l.body) guard) := by
    have hloop := loop?_mapBelow (guardBodies guards max) (fun c => [guardBodies guards max c]) n
    rw [hl, Option.map_some] at hloop
    rw [guardBodies_eq, guardLoop_of_loop hloop, of_eq_lookup hkeys, hguard]
    rfl
  rw [declareBelow_eq, isLabeled_guardBodies, hbodies, mapBelow_withLoopBody]
  rfl

end

/-! ## The guards of a choice -/

namespace Chosen

variable {root : Node} {kinds : List LoopKind} {c : Context} {loops : List FoundLoop}
  {stem? : Option String}

/-- Each chosen loop is guarded under its own name. -/
theorem guardsOf_eq (h : Chosen root kinds c loops stem?) : guardsOf loops stem?
    = (loops.mergeSort fun a b => a.order ≤ b.order).map fun l => (l.id, l.guard) := by
  rw [guardsOf]
  refine List.map_congr_left fun l hl => ?_
  have hguard := locate_guard (h.located l (List.mem_mergeSort.1 hl))
  rcases h.stem with rfl | rfl
  · rfl
  · rw [hguard]

theorem mem_guardsOf (h : Chosen root kinds c loops stem?) {k : LoopId} {name : String} :
    (k, name) ∈ guardsOf loops stem? ↔ ∃ l ∈ loops, l.id = k ∧ l.guard = name := by
  rw [h.guardsOf_eq, List.mem_map]
  constructor
  · rintro ⟨l, hl, he⟩
    rw [Prod.mk.injEq] at he
    exact ⟨l, List.mem_mergeSort.1 hl, he⟩
  · rintro ⟨l, hl, rfl, rfl⟩
    exact ⟨l, List.mem_mergeSort.2 hl, rfl⟩

/-- In a tree with distinct loops no two entries are for the same loop. -/
theorem keys_nodup (h : Chosen root kinds c loops stem?) (hroot : root.DistinctLoops) :
    ((guardsOf loops stem?).map Prod.fst).Nodup := by
  have hlocated : ((locate root kinds c).1.map (·.id)).Nodup :=
    (locate_ids root kinds c).nodup hroot
  rw [h.guardsOf_eq, List.map_map]
  refine List.Nodup.map_on ?_ ((List.mergeSort_perm _ _).nodup_iff.2 h.once)
  intro l hl l' hl' he
  exact List.inj_on_of_nodup_map hlocated (h.located l (List.mem_mergeSort.1 hl))
    (h.located l' (List.mem_mergeSort.1 hl')) he

theorem lookup_eq_some (h : Chosen root kinds c loops stem?) (hroot : root.DistinctLoops)
    {k : LoopId} {name : String} : (guardsOf loops stem?).lookup k = some name
      ↔ ∃ l ∈ loops, l.id = k ∧ l.guard = name := by
  rw [Guard.lookup_eq_some (h.keys_nodup hroot), h.mem_guardsOf]

/-- A loop has a guard if it was chosen. -/
theorem lookup_isSome (h : Chosen root kinds c loops stem?) (hroot : root.DistinctLoops)
    {k : LoopId} : ((guardsOf loops stem?).lookup k).isSome ↔ k ∈ loops.map (·.id) := by
  rw [Option.isSome_iff_exists, List.mem_map]
  constructor
  · rintro ⟨name, hname⟩
    obtain ⟨l, hl, hk, -⟩ := (h.lookup_eq_some hroot).1 hname
    exact ⟨l, hl, hk⟩
  · rintro ⟨l, hl, rfl⟩
    exact ⟨l.guard, (h.lookup_eq_some hroot).2 ⟨l, hl, rfl, rfl⟩⟩

/-- No two loops share a guard. -/
theorem lookup_injective (h : Chosen root kinds c loops stem?) (hroot : root.DistinctLoops)
    {k j : LoopId} {name : String} (hk : (guardsOf loops stem?).lookup k = some name)
    (hj : (guardsOf loops stem?).lookup j = some name) : k = j := by
  obtain ⟨l, hl, rfl, hguard⟩ := (h.lookup_eq_some hroot).1 hk
  obtain ⟨l', hl', rfl, hguard'⟩ := (h.lookup_eq_some hroot).1 hj
  have he : l = l' := List.inj_on_of_nodup_map (locate_guards_nodup root kinds c)
    (h.located l hl) (h.located l' hl') (hguard.trans hguard'.symm)
  rw [he]

theorem guard_not_mem (h : Chosen root kinds c loops stem?) {name : String}
    (hname : name ∈ loops.map (·.guard)) : name ∉ root.identifiers := by
  obtain ⟨l, hl, rfl⟩ := List.mem_map.1 hname
  exact locate_guard_not_mem (h.located l hl)

end Chosen

/-! ## The loop of the sample -/

/-- The loop of the sample as a search finds it. -/
def sampleLoop : FoundLoop :=
  ⟨0, .while, 1, "loopGuard_1", ⟨1, 8⟩⟩

theorem chosen_sample : Chosen Reading.sampleTree LoopKind.all {} [sampleLoop] none := by
  refine ⟨?_, List.nodup_singleton _, Or.inl rfl⟩
  intro l hl
  rw [List.mem_singleton] at hl
  subst hl
  unfold locate survey highestNumber
  simp only [Reading.sampleTree, Node.preorder_eq, Node.children, Node.slots, Slot.nodes,
    List.flatMap_cons, List.flatMap_nil, List.cons_append, List.nil_append, Option.toList]
  decide +kernel

end LoopBound.Guard
