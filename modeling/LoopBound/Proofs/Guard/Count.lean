import LoopBound.Proofs.Guard.Frame
import Mathlib.Algebra.BigOperators.Ring.List

/-!
# How often a guard is named

Every guarded loop names its guard three times: where it is declared, where it is counted up and
where it is checked. Nothing else in the guarded tree names it, since the name is new to the tree.

The declaration of a loop stands outside of the loop, in front of its outermost label. So the count
of a statement is one short of three for the loop that it is itself, and the list or block around it
makes up for that.
-/

namespace LoopBound.Guard

open LoopBound.Syntax LoopBound.Reading

variable {guards : Guards} {max : Int} {name : String}

/-- How often a name stands in a list of trees. -/
def occurrences (name : String) (ns : List Node) : Nat :=
  (ns.map fun n => n.identifiers.count name).sum

theorem occurrences_append (name : String) (ns ms : List Node) :
    occurrences name (ns ++ ms) = occurrences name ns + occurrences name ms := by
  rw [occurrences, List.map_append, List.sum_append]
  rfl

theorem occurrences_singleton (name : String) (n : Node) :
    occurrences name [n] = n.identifiers.count name := by
  simp [occurrences]

theorem count_block (name : String) (ns : List Node) (p : Text.Position) :
    (Node.blockStatement ns p).identifiers.count name = occurrences name ns := by
  rw [Node.count_identifiers]
  simp [Node.ownName?, Node.children, Node.slots, Slot.nodes, occurrences]

/-! ## What is put in -/

theorem count_declaration (name guard : String) :
    (declaration guard).identifiers.count name = if guard = name then 1 else 0 := by
  have hnames : (declaration guard).identifiers = [guard] := rfl
  rw [hnames, List.count_singleton]
  simp

theorem occurrences_guardStatements {name : String} (hname : name ≠ "RangeError") (guard : String)
    (max : Int) : occurrences name (guardStatements guard max) = if guard = name then 2 else 0 := by
  have hnames : (guardStatements guard max).map Node.identifiers
      = [[guard], [guard, "RangeError"]] := rfl
  have hcount : occurrences name (guardStatements guard max)
      = (((guardStatements guard max).map Node.identifiers).map (List.count name)).sum := by
    rw [List.map_map]
    rfl
  rw [hcount, hnames]
  by_cases h : guard = name
  · simp [h, hname.symm]
  · simp [h, hname.symm]

/-- Whether a declaration of the name stands in front of a statement. -/
def inFront (guards : Guards) (name : String) (behindLabel : Bool) (n : Node) : Nat :=
  if guardInFront? guards behindLabel n = some name then 1 else 0

theorem occurrences_declareMany (guards : Guards) (name : String) (behindLabel : Bool) (n : Node) :
    occurrences name (declareMany guards behindLabel n)
      = (declareBelow guards n).identifiers.count name + inFront guards name behindLabel n := by
  rw [declareMany, occurrences_append, occurrences_singleton, inFront]
  cases guardInFront? guards behindLabel n with
  | none => simp [occurrences]
  | some guard =>
    rw [Option.toList_some, List.map_singleton, occurrences_singleton, count_declaration]
    simp only [Option.some.injEq]
    omega

theorem count_declareOne (guards : Guards) (name : String) (behindLabel : Bool) (n : Node) :
    (declareOne guards behindLabel n).identifiers.count name
      = (declareBelow guards n).identifiers.count name + inFront guards name behindLabel n := by
  rw [← occurrences_declareMany, declareOne, declareMany]
  cases guardInFront? guards behindLabel n with
  | none => exact (occurrences_singleton _ _).symm
  | some guard => exact count_block _ _ _

/-- The guard statements come on top of what the body names. -/
theorem count_guardBody {name : String} (hname : name ≠ "RangeError") (guards : Guards) (max : Int)
    (body : Node) (guard : String) :
    (declareOne guards false (guardBody max body guard)).identifiers.count name
      = (if guard = name then 2 else 0)
        + (declareOne guards false body).identifiers.count name := by
  have hstatements : occurrences name ((bodyStatements body).1.flatMap (declareMany guards false))
      = (declareOne guards false body).identifiers.count name := by
    by_cases hsingle : isSingle body = true
    · rw [bodyStatements_of_single hsingle]
      simp only [List.flatMap_cons, List.flatMap_nil, List.append_nil]
      rw [occurrences_declareMany, count_declareOne]
    · cases body with
      | blockStatement ns p => rw [declareOne_block, count_block]; rfl
      | emptyStatement p =>
        have hempty : declareOne guards false (.emptyStatement p) = .emptyStatement p :=
          declareBelow_eq guards _
        rw [hempty]
        rfl
      | _ => simp [isSingle] at hsingle
  rw [guardBody]
  simp only
  rw [declareOne_block, count_block, List.flatMap_append, occurrences_append,
    declareMany_guardStatements, occurrences_guardStatements hname, hstatements]

/-! ## The tally of a tree -/

/-- How often the name stands in the guarded tree: as often as before, and three times for every
loop that it guards. -/
def tally (guards : Guards) (name : String) (n : Node) : Nat :=
  n.identifiers.count name + 3 * n.loopIds.countP fun k => guards.lookup k = some name

/-- Whether the node is a loop with this guard. -/
def guardedBy (guards : Guards) (name : String) (n : Node) : Nat :=
  if n.loopId?.any fun k => guards.lookup k = some name then 1 else 0

theorem tally_eq (guards : Guards) (name : String) (n : Node) : tally guards name n
    = n.ownName?.toList.count name + 3 * guardedBy guards name n
      + (n.children.map (tally guards name)).sum := by
  have hsum : (n.children.map (tally guards name)).sum
      = (n.children.map fun c => c.identifiers.count name).sum
        + 3 * (n.children.map fun c =>
            c.loopIds.countP fun k => guards.lookup k = some name).sum := by
    rw [← List.sum_map_mul_left, ← List.sum_map_add]
    rfl
  have hloops : n.loopIds.countP (fun k => guards.lookup k = some name)
      = guardedBy guards name n + (n.children.map fun c =>
          c.loopIds.countP fun k => guards.lookup k = some name).sum := by
    rw [Node.loopIds_eq, List.countP_append, List.countP_flatMap, guardedBy]
    congr 1
    cases n.loopId? with
    | none => rfl
    | some k => simp [List.countP_cons]
  rw [tally, Node.count_identifiers, hloops, hsum]
  omega

theorem tally_labeledStatement {label body : Node} {p : Text.Position} :
    tally guards name (.labeledStatement label body p)
      = tally guards name label + tally guards name body := by
  rw [tally_eq]
  simp [Node.ownName?, guardedBy, Node.loopId?, Node.loop?, Node.children, Node.slots, Slot.nodes]

theorem inFront_guardBodies (n : Node) : inFront guards name false (guardBodies guards max n)
    = if guardBehind? guards n = some name then 1 else 0 := by
  have hsame : guardInFront? guards false (guardBodies guards max n) = guardBehind? guards n := by
    rw [guardInFront?, guardBehind?_eq, loopBehind?_guardBodies, guardBehind?_eq]
    rfl
  rw [inFront, hsame]

theorem guardBehind?_of_quiet {n : Node} (h : Quiet n) : guardBehind? guards n = none := by
  rw [guardBehind?_eq, h]
  rfl

/-- A new body of a loop takes the place of the old one in any sum over the children. -/
theorem sum_children_withLoopBody {f : Node → Nat} {n body : Node} {l : Loop}
    (hl : n.loop? = some l) : ((n.withLoopBody body).children.map f).sum + f l.body
      = (n.children.map f).sum + f body := by
  cases n <;> simp only [Node.loop?, Option.some.injEq, reduceCtorEq] at hl <;> subst hl <;>
    simp only [Node.withLoopBody, Node.children, Node.slots, Slot.nodes, List.flatMap_cons,
      List.flatMap_nil, List.map_append, List.map_cons, List.map_nil, List.sum_append,
      List.sum_cons, List.sum_nil] <;>
    omega

theorem ownName?_head (n : Node) : n.head.ownName? = n.ownName? := by
  cases n <;> rfl

theorem ownName?_mapBelow (single : Node → Node) (splice : Node → List Node) (n : Node) :
    (n.mapBelow single splice).ownName? = n.ownName? := by
  rw [← ownName?_head, Node.head_mapBelow, ownName?_head]

theorem ownName?_of_loop {n : Node} {l : Loop} (h : n.loop? = some l) : n.ownName? = none := by
  cases n <;> first | rfl | simp [Node.loop?] at h

/-- The equation of `count_guarded` for one node. -/
def Counted (guards : Guards) (max : Int) (name : String) (n : Node) : Prop :=
  (declareBelow guards (guardBodies guards max n)).identifiers.count name
    + (if guardBehind? guards n = some name then 1 else 0) = tally guards name n

/-- What stands below a node without a label counts with its declarations. -/
theorem sum_below {n : Node} (hlabeled : isLabeled n = false)
    (h : ∀ c ∈ n.children, Counted guards max name c) :
    ((guardedBelow guards max n).children.map fun c => c.identifiers.count name).sum
      = (n.children.map (tally guards name)).sum := by
  rw [guardedBelow, hlabeled, Node.mapBelow_mapBelow]
  refine Node.sum_children_mapBelow fun c hc => ?_
  rw [count_declareOne, inFront_guardBodies, h c hc]
  refine ⟨rfl, ?_⟩
  show occurrences name (_ ++ []) = _
  rw [List.append_nil, occurrences_declareMany, inFront_guardBodies, h c hc]

/-- A label only passes on what is behind it. -/
theorem counted_labeledStatement {label body : Node} {p : Text.Position} (hquiet : Quiet label)
    (hlabel : Counted guards max name label) (hbody : Counted guards max name body) :
    Counted guards max name (.labeledStatement label body p) := by
  have hguarded : declareBelow guards (guardBodies guards max (.labeledStatement label body p))
      = .labeledStatement (declareBelow guards (guardBodies guards max label))
          (declareBelow guards (guardBodies guards max body)) p := by
    have hbodies : guardBodies guards max (.labeledStatement label body p)
        = .labeledStatement (guardBodies guards max label) (guardBodies guards max body) p :=
      guardBodies_eq guards max _
    rw [hbodies, declareBelow_eq]
    rfl
  have hbehind : guardBehind? guards (.labeledStatement label body p) = guardBehind? guards body :=
    rfl
  unfold Counted at *
  rw [guardBehind?_of_quiet hquiet] at hlabel
  rw [hguarded, hbehind, tally_labeledStatement, ← hlabel, ← hbody, Node.identifiers,
    List.count_append]
  simp only [reduceCtorEq, if_false]
  omega

/-- A node that is no guarded loop counts what is below it. -/
theorem counted_of_bare (hkeys : (guards.map Prod.fst).Nodup) {n : Node}
    (hlabeled : isLabeled n = false) (hbare : Bare guards n)
    (h : ∀ c ∈ n.children, Counted guards max name c) : Counted guards max name n := by
  have hnot : guardedBy guards name n = 0 ∧ guardBehind? guards n = none := by
    rw [guardedBy, guardBehind?_eq, loopBehind?_of_not_labeled hlabeled]
    cases hk : n.loopId? with
    | none => exact ⟨rfl, rfl⟩
    | some k => simp [hbare k hk]
  rw [Counted, hnot.2, declareBelow_of_bare hkeys hbare, Node.count_identifiers,
    sum_below hlabeled h, tally_eq, hnot.1, guardedBelow, ownName?_mapBelow, ownName?_mapBelow]
  rfl

/-- A guarded loop adds its guard statements and its declaration. -/
theorem counted_of_guarded {n : Node} {l : Loop} {guard : String} (hl : n.loop? = some l)
    (hkeys : (guards.map Prod.fst).Nodup) (hguard : guards.lookup l.id = some guard)
    (hname : name ≠ "RangeError") (h : ∀ c ∈ n.children, Counted guards max name c) :
    Counted guards max name n := by
  have hlabeled := not_labeled_of_loop hl
  have hid : n.loopId? = some l.id := by
    rw [Node.loopId?, hl]
    rfl
  have hbehind : guardBehind? guards n = some guard := by
    rw [guardBehind?_eq, loopBehind?_of_not_labeled hlabeled, hid]
    exact hguard
  have hby : guardedBy guards name n = if guard = name then 1 else 0 := by
    rw [guardedBy, hid]
    simp [hguard]
  -- the guarded body names the guard twice more than the body does without its guard
  have hbody := @sum_children_withLoopBody (fun c => c.identifiers.count name) _
    (declareOne guards false (guardBody max (guardBodies guards max l.body) guard)) _
    (@loop?_guardedBelow guards n l hl max)
  simp only [hlabeled] at hbody
  rw [count_guardBody hname, sum_below hlabeled h] at hbody
  rw [Counted, hbehind, declareBelow_of_guarded hkeys hl hguard, hlabeled, Node.count_identifiers,
    tally_eq, hby, ownName?_of_loop hl]
  have hloop := @loop?_guardedBelow guards n l hl max
  have hown := ownName?_of_loop ((loop?_withLoopBody _
    (declareOne guards false (guardBody max (guardBodies guards max l.body) guard))).trans
      (by rw [hloop]; rfl))
  rw [hown]
  by_cases hg : guard = name
  · simp only [hg, if_true] at hbody ⊢
    simp only [Option.toList_none, List.count_nil]
    omega
  · simp only [hg, if_false] at hbody ⊢
    simp only [Option.toList_none, List.count_nil, Option.some.injEq, hg, if_false]
    omega

/-- **The count of one node.** With the declaration in front of it, if it has one, a guarded node
names a guard as often as it did before and three times for every loop with this guard. -/
theorem count_guarded (hkeys : (guards.map Prod.fst).Nodup) (hname : name ≠ "RangeError") {n : Node}
    (h : Placed n) : Counted guards max name n := by
  induction n using Node.induction_children with
  | h n ih =>
    obtain ⟨hquiet, hbelow⟩ := (placed_iff n).1 h
    have ih : ∀ c ∈ n.children, Counted guards max name c := fun c hc => ih c hc (hbelow c hc)
    by_cases hlabeled : isLabeled n = true
    · obtain ⟨label, body, p, rfl⟩ := isLabeled_eq_true.1 hlabeled
      have hchildren : (Node.labeledStatement label body p).children = [label, body] := rfl
      rw [hchildren] at ih
      exact counted_labeledStatement (hquiet.label label body p rfl) (ih label (by simp))
        (ih body (by simp))
    · have hlabeled : isLabeled n = false := by simpa using hlabeled
      rcases bare_or_guarded guards n with hbare | ⟨l, guard, hl, hguard⟩
      · exact counted_of_bare hkeys hlabeled hbare ih
      · exact counted_of_guarded hl hkeys hguard hname ih

/-! ## A tree that was read -/

variable {root : Node} {kinds : List LoopKind} {c : Context} {loops : List FoundLoop}
  {stem? : Option String}

/-- Exactly one loop of the tree has the guard of a chosen loop. -/
theorem Chosen.countP_guard (h : Chosen root kinds c loops stem?) (hroot : root.DistinctLoops)
    {l : FoundLoop} (hl : l ∈ loops) :
    root.loopIds.countP (fun k => (guardsOf loops stem?).lookup k = some l.guard) = 1 := by
  have hlookup : (guardsOf loops stem?).lookup l.id = some l.guard :=
    (h.lookup_eq_some hroot).2 ⟨l, hl, rfl, rfl⟩
  have hsame : root.loopIds.countP (fun k => (guardsOf loops stem?).lookup k = some l.guard)
      = root.loopIds.count l.id := by
    refine List.countP_congr fun k _ => ?_
    simp only [decide_eq_true_eq, beq_iff_eq]
    exact ⟨fun hk => h.lookup_injective hroot hk hlookup, fun hk => hk ▸ hlookup⟩
  rw [hsame]
  exact List.count_eq_one_of_mem hroot (locate_id_mem (h.located l hl))

/-- The guard of a chosen loop is named three times in the guarded tree. -/
theorem Chosen.count_guard (h : Chosen root kinds c loops stem?) (hread : ReadTree root)
    {l : FoundLoop} (hl : l ∈ loops) :
    (inject root loops max stem?).identifiers.count l.guard = 3 := by
  obtain ⟨ns, p, rfl⟩ := hread.program
  have hname : l.guard ≠ "RangeError" := by
    rw [locate_guard (h.located l hl)]
    exact guardName_ne_rangeError c.stem l.order
  have hcounted := @count_guarded _ max _ (h.keys_nodup hread.distinct) hname _ hread.placed
  have hfresh : (Node.program ns p).identifiers.count l.guard = 0 :=
    List.count_eq_zero.2 (h.guard_not_mem (List.mem_map_of_mem hl))
  rw [Counted, tally, hfresh, h.countP_guard hread.distinct hl,
    guardBehind?_of_quiet (n := .program ns p) rfl] at hcounted
  rw [inject_program]
  simpa using hcounted

end LoopBound.Guard
