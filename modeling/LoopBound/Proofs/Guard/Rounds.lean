import LoopBound.Proofs.Guard.Carried

/-!
# Guarding again and again

A tree is guarded in rounds. Each round searches the tree as the rounds before it left it, with a
new context, and guards all loops that it finds; so it reads the names of earlier rounds back out of
the tree, and it meets blocks that earlier rounds have made.

What carries a run is `Standing`: the tree is the one that was read, carrying a guard for each visit
to each loop, and each name that was ever made stands in it three times. A round then finds the
loops that the tree had from the start, and its names are new because they stand nowhere in the
tree.
-/

namespace LoopBound.Guard

open LoopBound.Syntax LoopBound.Reading

/-- One round: the kinds it searches for, its threshold, and whether the context of the search is
handed on to the guarding. -/
structure Round where
  kinds : List LoopKind
  max : Int
  shared : Bool

namespace Round

/-- The stem that guards are named by, if it is given. -/
def stem? (r : Round) : Option String :=
  if r.shared then some usualStem else none

/-- The loops that the round finds. -/
def found (r : Round) (t : Node) : List FoundLoop :=
  (locate t r.kinds {}).1

/-- The tree behind the round. -/
def run (r : Round) (t : Node) : Node :=
  inject t (r.found t) r.max r.stem?

end Round

/-- A round and the loops that it found. -/
abbrev Visit := Round × List FoundLoop

/-- One round after the other, each with the loops that it finds. -/
def visits : Node → List Round → List Visit
  | _, [] => []
  | t, r :: rs => (r, r.found t) :: visits (r.run t) rs

/-- The tree behind the last round. -/
def runAll (t : Node) (rs : List Round) : Node :=
  rs.foldl (fun t r => r.run t) t

/-- The guard that a visit gives to a loop, with the threshold of the round. -/
def Visit.guard? (v : Visit) (k : LoopId) : Option (String × Int) :=
  (v.2.find? fun l => l.id = k).map fun l => (l.guard, v.1.max)

/-- The guards that visits give to a loop, oldest first. -/
def givenGuards (vs : List Visit) (k : LoopId) : List (String × Int) :=
  vs.filterMap (Visit.guard? · k)

/-- The names that visits make. -/
def madeNames (vs : List Visit) : List String :=
  vs.flatMap fun v => v.2.map (·.guard)

/-! ## One round -/

/-- What the search makes known of a loop. -/
def FoundLoop.head (l : FoundLoop) : LoopHead :=
  ⟨l.id, l.kind, l.position⟩

theorem sightings_heads (kinds : List LoopKind) (ns : List Node) (c : Context) :
    ((sightings kinds c ns).1.filterMap Sighting.loop?).map FoundLoop.head
      = (ns.filterMap loopHead?).filter (·.kind ∈ kinds) := by
  induction ns generalizing c with
  | nil => rfl
  | cons n ns ih =>
    rw [sightings, List.filterMap_cons, loopHead?]
    cases n.loop? with
    | none => exact ih c
    | some l =>
      simp only [Option.map_some]
      by_cases hk : l.kind ∈ kinds
      · rw [if_pos hk, List.filter_cons_of_pos (by simpa using hk), ← ih c.allocate.2]
        rfl
      · rw [if_neg hk, List.filter_cons_of_neg (by simpa using hk), ← ih c]
        rfl

/-- A search finds the loops of enabled kinds. -/
theorem locate_heads (root : Node) (kinds : List LoopKind) (c : Context) :
    (locate root kinds c).1.map FoundLoop.head = (loopHeads root).filter (·.kind ∈ kinds) :=
  sightings_heads kinds root.preorder _

theorem Round.chosen (r : Round) {t : Node} (hroot : t.DistinctLoops) :
    Chosen t r.kinds {} (r.found t) r.stem? where
  located := fun _ hl => hl
  once := ((locate_ids t r.kinds {}).nodup hroot).of_map _
  stem := by
    rw [Round.stem?]
    cases r.shared with
    | true => exact .inr rfl
    | false => exact .inl rfl

/-- The guard of a loop is that of its visit. -/
theorem Round.lookup_eq (r : Round) {t : Node} (hroot : t.DistinctLoops) (k : LoopId) :
    (guardsOf (r.found t) r.stem?).lookup k
      = ((r.found t).find? fun l => l.id = k).map (·.guard) := by
  have hids : ((r.found t).map (·.id)).Nodup := (locate_ids t r.kinds {}).nodup hroot
  refine Option.ext fun name => ?_
  rw [(r.chosen hroot).lookup_eq_some hroot, Option.map_eq_some_iff]
  constructor
  · rintro ⟨l, hl, rfl, rfl⟩
    cases hfind : (r.found t).find? fun l' => l'.id = l.id with
    | none => simpa using List.find?_eq_none.1 hfind l hl
    | some l' =>
      have hid : l'.id = l.id := by simpa using List.find?_some hfind
      have hsame := List.inj_on_of_nodup_map hids (List.mem_of_find?_eq_some hfind) hl hid
      exact ⟨l', rfl, by rw [hsame]⟩
  · rintro ⟨l, hfind, rfl⟩
    exact ⟨l, List.mem_of_find?_eq_some hfind, by simpa using List.find?_some hfind, rfl⟩

/-- A name that guards no loop stands as often in the guarded tree as before. -/
theorem Chosen.count_of_not_mem {root : Node} {kinds : List LoopKind} {c : Context}
    {loops : List FoundLoop} {stem? : Option String} (h : Chosen root kinds c loops stem?)
    (hread : ReadTree root) {name : String} (hname : name ≠ "RangeError")
    (hnot : name ∉ loops.map (·.guard)) (max : Int) :
    (inject root loops max stem?).identifiers.count name = root.identifiers.count name := by
  obtain ⟨ns, p, rfl⟩ := hread.program
  have hcounted := @count_guarded _ max _ (h.keys_nodup hread.distinct) hname _ hread.placed
  have hnone : (Node.program ns p).loopIds.countP
      (fun k => (guardsOf loops stem?).lookup k = some name) = 0 := by
    rw [List.countP_eq_zero]
    intro k _ hk
    obtain ⟨l, hl, -, rfl⟩ := (h.lookup_eq_some hread.distinct).1 (of_decide_eq_true hk)
    exact hnot (List.mem_map_of_mem hl)
  rw [Counted, tally, hnone, guardBehind?_of_quiet (n := .program ns p) rfl] at hcounted
  rw [inject_program]
  simpa using hcounted

/-! ## What every round keeps -/

/-- The tree `now` is the tree `t` with these marks, and these are the names made so far. -/
structure Standing (t : Node) (marks : Marks) (names : List String) (now : Node) : Prop where
  /-- The tree carries the marks and nothing else. -/
  carries : now = carry marks t
  /-- No name was made twice. -/
  once : names.Nodup
  /-- Every name stands three times in the tree, and is no name but that of a guard. -/
  thrice : ∀ name ∈ names, now.identifiers.count name = 3 ∧ name ≠ "RangeError"

theorem readTree_carry {t : Node} (h : ReadTree t) (marks : Marks) : ReadTree (carry marks t) where
  program := by
    obtain ⟨ns, p, rfl⟩ := h.program
    exact ⟨_, p, carry_eq marks _⟩
  placed := placed_carry h.placed
  distinct := by
    rw [Node.DistinctLoops, ← map_id_loopHeads, loopHeads_carry, map_id_loopHeads]
    exact h.distinct

theorem standing_start (t : Node) : Standing t .empty [] t where
  carries := (carry_empty t).symm
  once := List.nodup_nil
  thrice := by simp

/-- The marks behind a visit. -/
def Marks.visit (marks : Marks) (v : Visit) : Marks :=
  fun k => (v.guard? k).toList ++ marks k

/-- **One round.** It finds the loops that the tree had from the start, and what stood keeps
standing. -/
theorem Standing.step {t now : Node} {marks : Marks} {names : List String} (hread : ReadTree t)
    (h : Standing t marks names now) (r : Round) :
    (r.found now).map FoundLoop.head = (loopHeads t).filter (·.kind ∈ r.kinds)
      ∧ Standing t (marks.visit (r, r.found now)) (names ++ (r.found now).map (·.guard))
          (r.run now) := by
  have hnow : ReadTree now := h.carries ▸ readTree_carry hread marks
  have hchosen := r.chosen hnow.distinct
  have hnew : ∀ name ∈ (r.found now).map (·.guard), name ∉ now.identifiers :=
    fun name hname => hchosen.guard_not_mem hname
  refine ⟨?_, ?_, ?_, ?_⟩
  · rw [Round.found, locate_heads, h.carries, loopHeads_carry]
  · have hmarks : marks.push (guardsOf (r.found now) r.stem?) r.max
        = marks.visit (r, r.found now) := by
      funext k
      rw [Marks.push, r.lookup_eq hnow.distinct, Marks.visit, Visit.guard?]
      cases (r.found now).find? fun l => l.id = k <;> rfl
    have hkeys := hchosen.keys_nodup hnow.distinct
    rw [← hmarks, Round.run]
    obtain ⟨ns, p, rfl⟩ := hread.program
    have hinject := @inject_carry marks ns p (r.found now) r.stem? hkeys r.max
    rw [← h.carries] at hinject
    exact hinject
  · refine List.nodup_append'.2 ⟨h.once, locate_guards_nodup now r.kinds {}, ?_⟩
    intro name hname hmade
    have hcount := (h.thrice name hname).1
    rw [List.count_eq_zero.2 (hnew name hmade)] at hcount
    omega
  · intro name hname
    rcases List.mem_append.1 hname with hname | hmade
    · obtain ⟨hcount, hne⟩ := h.thrice name hname
      have hnot : name ∉ (r.found now).map (·.guard) := by
        intro hmade
        rw [List.count_eq_zero.2 (hnew name hmade)] at hcount
        omega
      refine ⟨?_, hne⟩
      rw [Round.run, hchosen.count_of_not_mem hnow hne hnot, hcount]
    · obtain ⟨l, hl, rfl⟩ := List.mem_map.1 hmade
      refine ⟨hchosen.count_guard hnow hl, ?_⟩
      rw [locate_guard hl]
      exact guardName_ne_rangeError _ _

/-- **A run of rounds.** Each finds the loops that the tree had from the start, and what stood at
the beginning stands at the end, with the guards of all visits on top. -/
theorem Standing.run {t : Node} (hread : ReadTree t) (rs : List Round) {now : Node} {marks : Marks}
    {names : List String} (h : Standing t marks names now) :
    (∀ v ∈ visits now rs, v.2.map FoundLoop.head = (loopHeads t).filter (·.kind ∈ v.1.kinds))
      ∧ Standing t (fun k => (givenGuards (visits now rs) k).reverse ++ marks k)
          (names ++ madeNames (visits now rs)) (runAll now rs) := by
  induction rs generalizing now marks names with
  | nil =>
    refine ⟨by simp [visits], ?_⟩
    rw [visits, madeNames, List.flatMap_nil, List.append_nil]
    exact h
  | cons r rs ih =>
    obtain ⟨hheads, hstep⟩ := h.step hread r
    obtain ⟨hlater, hrun⟩ := ih hstep
    constructor
    · intro v hv
      rcases List.mem_cons.1 hv with rfl | hv
      · exact hheads
      · exact hlater v hv
    · have hmarks : (fun k => (givenGuards (visits now (r :: rs)) k).reverse ++ marks k)
          = fun k => (givenGuards (visits (r.run now) rs) k).reverse
              ++ marks.visit (r, r.found now) k := by
        funext k
        rw [visits, givenGuards, List.filterMap_cons, Marks.visit, givenGuards]
        cases Visit.guard? (r, r.found now) k <;> simp
      rw [hmarks, visits, madeNames, List.flatMap_cons, ← List.append_assoc]
      exact hrun

/-! ## What a run leaves -/

theorem map_fst_visits (t : Node) (rs : List Round) : (visits t rs).map Prod.fst = rs := by
  induction rs generalizing t with
  | nil => rfl
  | cons r rs ih => rw [visits, List.map_cons, ih]

/-- A visit gives a guard to a loop if the kind of the loop is enabled. -/
theorem guard?_eq {heads : List LoopHead} (hids : (heads.map (·.id)).Nodup) {v : Visit}
    (hv : v.2.map FoundLoop.head = heads.filter (·.kind ∈ v.1.kinds)) {h : LoopHead}
    (hh : h ∈ heads) :
    (v.guard? h.id).map Prod.snd = if h.kind ∈ v.1.kinds then some v.1.max else none := by
  rw [Visit.guard?, Option.map_map]
  split
  · rename_i hkind
    have hmem : h ∈ v.2.map FoundLoop.head := by
      rw [hv]
      exact List.mem_filter.2 ⟨hh, by simpa using hkind⟩
    obtain ⟨l, hl, rfl⟩ := List.mem_map.1 hmem
    cases hfind : v.2.find? fun l' => l'.id = l.head.id with
    | none => simpa [FoundLoop.head] using List.find?_eq_none.1 hfind l hl
    | some l' => rfl
  · rename_i hkind
    cases hfind : v.2.find? fun l' => l'.id = h.id with
    | none => rfl
    | some l' =>
      have hid : l'.id = h.id := by simpa using List.find?_some hfind
      have hmem : l'.head ∈ heads.filter (·.kind ∈ v.1.kinds) :=
        hv ▸ List.mem_map_of_mem (List.mem_of_find?_eq_some hfind)
      obtain ⟨hhead, henabled⟩ := List.mem_filter.1 hmem
      have hsame : l'.head = h := List.inj_on_of_nodup_map hids hhead hh hid
      rw [hsame] at henabled
      exact absurd (by simpa using henabled) hkind

/-- A loop gets one guard from each round in which its kind is enabled. -/
theorem givenGuards_thresholds {heads : List LoopHead} (hids : (heads.map (·.id)).Nodup)
    {vs : List Visit}
    (hvs : ∀ v ∈ vs, v.2.map FoundLoop.head = heads.filter (·.kind ∈ v.1.kinds)) {h : LoopHead}
    (hh : h ∈ heads) : (givenGuards vs h.id).map Prod.snd
      = ((vs.map Prod.fst).filter (h.kind ∈ ·.kinds)).map (·.max) := by
  induction vs with
  | nil => rfl
  | cons v vs ih =>
    have hguard := guard?_eq hids (hvs v List.mem_cons_self) hh
    have hrest := ih fun w hw => hvs w (List.mem_cons_of_mem _ hw)
    rw [givenGuards] at hrest ⊢
    rw [List.filterMap_cons, List.map_cons]
    by_cases hkind : h.kind ∈ v.1.kinds
    · rw [if_pos hkind, Option.map_eq_some_iff] at hguard
      obtain ⟨m, hm, hmax⟩ := hguard
      rw [hm, List.filter_cons_of_pos (by simpa using hkind), List.map_cons, List.map_cons, hmax,
        hrest]
    · rw [if_neg hkind, Option.map_eq_none_iff] at hguard
      rw [hguard, List.filter_cons_of_neg (by simpa using hkind)]
      exact hrest

/-- The declarations of a loop stand in front of it, in a list of statements. -/
theorem exists_declarations {t : Node} (hread : ReadTree t) {marks : Marks} {k : LoopId}
    (hk : k ∈ t.loopIds) (hmarks : marks k ≠ []) :
    ∃ d ∈ (carry marks t).preorder, ∃ ns pre s post, statementList? d = some ns
      ∧ ns = pre ++ (marks k).reverse.map (fun m => declaration m.1) ++ s :: post
      ∧ loopBehind? s = some k := by
  have htree := @carriedTree_carry marks t hread.placed
  have hk : k ∈ (carry marks t).loopIds := by
    rw [← map_id_loopHeads, loopHeads_carry, map_id_loopHeads]
    exact hk
  have hprogram : loopBehind? (carry marks t) = none := by
    obtain ⟨ns, p, rfl⟩ := hread.program
    rw [loopBehind?_carry]
    rfl
  rcases exists_holder (fun d hd => (htree d hd).quiet.label) hk with
    hbehind | ⟨d, hd, hlabel, s, hs, hbehind⟩
  · rw [hprogram] at hbehind
    simp at hbehind
  · have hdeclarations : marks.declarations false s
        = (marks k).reverse.map fun m => declaration m.1 := by
      rw [Marks.declarations, hbehind]
      simp
    have hne : marks.declarations false s ≠ [] := by
      rw [hdeclarations]
      simpa using hmarks
    obtain ⟨ns, hns, hmem⟩ := (htree d hd).listed hlabel s hs hne
    obtain ⟨pre, post, he⟩ := (htree d hd).declared ns hns s hmem
    rw [hdeclarations] at he
    exact ⟨d, hd, ns, pre, s, post, hns, he, hbehind⟩

/-- **Guarding can be repeated any number of times.** In any run of rounds on a tree that was read,
no name is made twice, and each round finds the loops of its kinds that the tree had from the start,
in the same order. In the end each loop has one guard from each round in which its kind was enabled,
with the threshold of that round: their statements stand at the top of its body, newest first, and
their declarations right in front of it or of its outermost label, newest last. No other place names
any of the guards. -/
theorem rounds_add_up {text : String} {t : Node} (ht : parse text = .ok t) (rs : List Round) :
    (madeNames (visits t rs)).Nodup
      ∧ (∀ v ∈ visits t rs,
          v.2.map FoundLoop.head = (loopHeads t).filter (·.kind ∈ v.1.kinds))
      ∧ loopHeads (runAll t rs) = loopHeads t
      ∧ (∀ name ∈ madeNames (visits t rs), (runAll t rs).identifiers.count name = 3)
      ∧ ∀ h ∈ loopHeads t,
          let given := givenGuards (visits t rs) h.id
          given.map Prod.snd = (rs.filter (h.kind ∈ ·.kinds)).map (·.max)
            ∧ (given ≠ [] →
              (∀ d ∈ (runAll t rs).preorder, ∀ l, d.loop? = some l → l.id = h.id → ∃ rest p,
                l.body = .blockStatement
                  (given.reverse.flatMap (fun m => guardStatements m.1 m.2) ++ rest) p)
              ∧ ∃ d ∈ (runAll t rs).preorder, ∃ ns pre s post, statementList? d = some ns
                ∧ ns = pre ++ given.map (fun m => declaration m.1) ++ s :: post
                ∧ loopBehind? s = some h.id) := by
  have hread := readTree_of_parse ht
  obtain ⟨hheads, hend⟩ := (standing_start t).run hread rs
  have hids : ((loopHeads t).map (·.id)).Nodup := by
    rw [map_id_loopHeads]
    exact hread.distinct
  refine ⟨hend.once, hheads, ?_, fun name hname => (hend.thrice name hname).1, ?_⟩
  · rw [hend.carries, loopHeads_carry]
  · intro h hh
    have hthresholds := givenGuards_thresholds hids hheads hh
    rw [map_fst_visits] at hthresholds
    have hid : h.id ∈ t.loopIds := by
      rw [← map_id_loopHeads]
      exact List.mem_map_of_mem hh
    refine ⟨hthresholds, fun hgiven => ?_⟩
    have hmarks : (givenGuards (visits t rs) h.id).reverse ++ Marks.empty h.id ≠ [] := by
      simpa [Marks.empty] using hgiven
    have htree := @carriedTree_carry
      (fun k => (givenGuards (visits t rs) k).reverse ++ Marks.empty k) t hread.placed
    rw [hend.carries]
    constructor
    · intro d hd l hl hlid
      obtain ⟨rest, p, hbody⟩ := (htree d hd).body l hl (by rw [hlid]; exact hmarks)
      rw [hlid] at hbody
      refine ⟨rest, p, ?_⟩
      simpa [Marks.empty, Marks.statements] using hbody
    · obtain ⟨d, hd, ns, pre, s, post, hns, he, hbehind⟩ := @exists_declarations t hread
        (fun k => (givenGuards (visits t rs) k).reverse ++ Marks.empty k) h.id hid hmarks
      refine ⟨d, hd, ns, pre, s, post, hns, ?_, hbehind⟩
      simpa [Marks.empty] using he

/-- Three rounds on the sample, of which the second leaves its loop alone. -/
theorem rounds_add_up_sample :
    let rs : List Round := [⟨LoopKind.all, 3, false⟩, ⟨[.for], 4, true⟩, ⟨[.while], 5, true⟩]
    parse sampleText = .ok sampleTree
      ∧ loopHeads (runAll sampleTree rs) = [⟨0, .while, ⟨1, 8⟩⟩]
      ∧ (givenGuards (visits sampleTree rs) 0).map Prod.snd = [3, 5] := by
  have hheads : loopHeads sampleTree = [⟨0, .while, ⟨1, 8⟩⟩] := by
    simp only [loopHeads, sampleTree, Node.preorder_eq, Node.children, Node.slots, Slot.nodes,
      List.flatMap_cons, List.flatMap_nil, List.cons_append, List.nil_append, Option.toList]
    rfl
  have h := rounds_add_up parse_sampleText
    [⟨LoopKind.all, 3, false⟩, ⟨[.for], 4, true⟩, ⟨[.while], 5, true⟩]
  obtain ⟨-, -, hend, -, hgiven⟩ := h
  refine ⟨parse_sampleText, hend.trans hheads, ?_⟩
  have hloop := hgiven ⟨0, .while, ⟨1, 8⟩⟩ (by rw [hheads]; exact List.mem_cons_self)
  exact hloop.1

end LoopBound.Guard
