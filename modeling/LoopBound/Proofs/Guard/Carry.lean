import LoopBound.Proofs.Guard.Frame

/-!
# Trees that carry guards

A tree may be guarded again, by the same hand or by another. `Marks` says which guards each loop of
a tree carries, and `carry` is the tree with all of them, put together in one go: at the top of a
body stand the statements of its guards, newest first, and in front of the loop with its labels
stand the declarations, newest last.

Guarding loops of such a tree gives such a tree again, with one more mark for each guarded loop
(`inject_carry`). So the result of any number of calls can be read off the marks, and the order of
calls matters only as far as the marks depend on it.
-/

namespace LoopBound.Guard

open LoopBound.Syntax

/-- The guards that each loop carries, with their thresholds, newest first. -/
abbrev Marks := LoopId → List (String × Int)

namespace Marks

/-- No loop carries a guard. -/
def empty : Marks := fun _ => []

/-- Loops with an entry carry one guard more. -/
def push (marks : Marks) (guards : Guards) (max : Int) : Marks := fun k =>
  (guards.lookup k).toList.map (·, max) ++ marks k

/-- The declarations in front of a statement. -/
def declarations (marks : Marks) (behindLabel : Bool) (n : Node) : List Node :=
  if behindLabel then []
  else ((loopBehind? n).toList.flatMap fun k => (marks k).reverse).map fun m => declaration m.1

/-- What takes the place of `old` where there is room for one node. -/
def alone (marks : Marks) (behindLabel : Bool) (old new : Node) : Node :=
  match marks.declarations behindLabel old with
  | [] => new
  | d :: ds => .blockStatement (d :: ds ++ [new]) old.loc

/-- What takes the place of `old` in a list. -/
def among (marks : Marks) (behindLabel : Bool) (old new : Node) : List Node :=
  marks.declarations behindLabel old ++ [new]

/-- The statements at the top of a body. -/
def statements (ms : List (String × Int)) : List Node :=
  ms.flatMap fun m => guardStatements m.1 m.2

/-- The loop with the statements of its guards in its body. -/
def topped (marks : Marks) (n : Node) : Node :=
  match n.loop? with
  | none => n
  | some l =>
    match marks l.id with
    | [] => n
    | m :: ms =>
      let (below, p) := bodyStatements l.body
      n.withLoopBody (.blockStatement (statements (m :: ms) ++ below) p)

end Marks

/-- The tree with the guards that its loops carry. -/
def carry (marks : Marks) (n : Node) : Node :=
  marks.topped (n.withSlots (n.slots.attach.map fun ⟨s, _⟩ =>
    s.mapMem (fun c _ => marks.alone (isLabeled n) c (carry marks c))
      (fun c _ => marks.among (isLabeled n) c (carry marks c))))
termination_by n
decreasing_by all_goals exact Node.sizeOf_lt_of_mem_slot ‹_› ‹_›

/-- The node with what is below it carrying its guards. -/
def carryBelow (marks : Marks) (n : Node) : Node :=
  n.mapBelow (fun c => marks.alone (isLabeled n) c (carry marks c))
    fun c => marks.among (isLabeled n) c (carry marks c)

theorem carry_eq (marks : Marks) (n : Node) : carry marks n = marks.topped (carryBelow marks n) := by
  rw [carry, carryBelow, Node.mapBelow]
  congr 2
  conv => rhs; rw [← List.attach_map_subtype_val n.slots, List.map_map]
  congr 1
  funext s
  exact Slot.mapMem_eq_map s.1 _ _

/-! ## What a tree with guards keeps -/

variable {marks : Marks}

theorem loc_topped (n : Node) : (marks.topped n).loc = n.loc := by
  rw [Marks.topped]
  split
  · rfl
  · split
    · rfl
    · exact loc_withLoopBody _ _

theorem isLabeled_topped (n : Node) : isLabeled (marks.topped n) = isLabeled n := by
  rw [Marks.topped]
  split
  · rfl
  · split
    · rfl
    · exact isLabeled_withLoopBody _ _

theorem loopId?_topped (n : Node) : (marks.topped n).loopId? = n.loopId? := by
  rw [Marks.topped]
  split
  · rfl
  · split
    · rfl
    · exact loopId?_withLoopBody _ _

theorem loc_carry (n : Node) : (carry marks n).loc = n.loc := by
  rw [carry_eq, loc_topped, carryBelow, Node.loc_mapBelow]

theorem isLabeled_carry (n : Node) : isLabeled (carry marks n) = isLabeled n := by
  rw [carry_eq, isLabeled_topped, carryBelow, isLabeled_mapBelow]

theorem loopId?_carry (n : Node) : (carry marks n).loopId? = n.loopId? := by
  rw [carry_eq, loopId?_topped, carryBelow, loopId?_mapBelow]

theorem carry_labeledStatement (label body : Node) (p : Text.Position) :
    carry marks (.labeledStatement label body p)
      = .labeledStatement (carry marks label) (carry marks body) p :=
  carry_eq marks _

theorem loopBehind?_carry (n : Node) : loopBehind? (carry marks n) = loopBehind? n := by
  induction n using Node.induction_children with
  | h n ih =>
    by_cases hl : isLabeled n = true
    · obtain ⟨label, body, p, rfl⟩ := isLabeled_eq_true.1 hl
      have hbody : body ∈ (Node.labeledStatement label body p).children := by
        simp [Node.children, Node.slots, Slot.nodes]
      rw [carry_labeledStatement]
      exact ih body hbody
    · have hl : isLabeled n = false := by simpa using hl
      rw [loopBehind?_of_not_labeled hl, loopBehind?_of_not_labeled
        (by rw [isLabeled_carry, hl]), loopId?_carry]

theorem declarations_empty (behindLabel : Bool) (n : Node) :
    Marks.empty.declarations behindLabel n = [] := by
  rw [Marks.declarations]
  cases behindLabel with
  | true => rfl
  | false => cases loopBehind? n <;> rfl

/-- A tree without marks is the tree itself. -/
theorem carry_empty (n : Node) : carry .empty n = n := by
  induction n using Node.induction_children with
  | h n ih =>
    have hbelow : carryBelow .empty n = n := by
      refine Node.mapBelow_id fun c hc => ?_
      rw [Marks.alone, Marks.among, declarations_empty, ih c hc]
      exact ⟨rfl, rfl⟩
    rw [carry_eq, hbelow, Marks.topped]
    cases n.loop? <;> rfl

/-! ## Both rewritings of a node -/

section

variable {guards : Guards} {max : Int}

/-- A node after both rewritings, without its own declaration. -/
def guarded (guards : Guards) (max : Int) (n : Node) : Node :=
  declareBelow guards (guardBodies guards max n)

/-- A node after both rewritings in a slot for one node. -/
def guardedOne (guards : Guards) (max : Int) (behindLabel : Bool) (n : Node) : Node :=
  declareOne guards behindLabel (guardBodies guards max n)

/-- A node after both rewritings in a list. -/
def guardedMany (guards : Guards) (max : Int) (behindLabel : Bool) (n : Node) : List Node :=
  declareMany guards behindLabel (guardBodies guards max n)

theorem guardInFront?_guardBodies (behindLabel : Bool) (n : Node) :
    guardInFront? guards behindLabel (guardBodies guards max n)
      = guardInFront? guards behindLabel n := by
  rw [guardInFront?, guardBehind?_eq, loopBehind?_guardBodies, ← guardBehind?_eq]
  rfl

theorem guardedOne_of_none {behindLabel : Bool} {n : Node}
    (h : guardInFront? guards behindLabel n = none) :
    guardedOne guards max behindLabel n = guarded guards max n
      ∧ guardedMany guards max behindLabel n = [guarded guards max n] := by
  rw [guardedOne, guardedMany, declareOne, declareMany, guardInFront?_guardBodies, h]
  exact ⟨rfl, rfl⟩

theorem guardedOne_of_some {behindLabel : Bool} {n : Node} {guard : String}
    (h : guardInFront? guards behindLabel n = some guard) :
    guardedOne guards max behindLabel n
        = .blockStatement [declaration guard, guarded guards max n] n.loc
      ∧ guardedMany guards max behindLabel n = [declaration guard, guarded guards max n] := by
  rw [guardedOne, guardedMany, declareOne, declareMany, guardInFront?_guardBodies, h]
  simp only [loc_guardBodies]
  exact ⟨rfl, rfl⟩

theorem guardBodies_block (ns : List Node) (p : Text.Position) :
    guardBodies guards max (.blockStatement ns p)
      = .blockStatement (ns.flatMap fun c => [guardBodies guards max c]) p :=
  guardBodies_eq guards max _

theorem guardedOne_block (behindLabel : Bool) (ns : List Node) (p : Text.Position) :
    guardedOne guards max behindLabel (.blockStatement ns p)
      = .blockStatement (ns.flatMap (guardedMany guards max false)) p := by
  rw [guardedOne, guardBodies_block, declareOne_block, List.flatMap_assoc]
  congr 1
  refine List.flatMap_congr fun c _ => ?_
  rw [List.flatMap_singleton]
  rfl

theorem isSingle_guarded (n : Node) : isSingle (guarded guards max n) = isSingle n :=
  (isSingle_mapBelow _ _ _).trans (isSingle_guardBodies guards max n)

theorem bodyStatements_guardBodies (body : Node) :
    bodyStatements (guardBodies guards max body)
      = ((bodyStatements body).1.flatMap fun c => [guardBodies guards max c],
        (bodyStatements body).2) := by
  by_cases hsingle : isSingle body = true
  · rw [bodyStatements_of_single hsingle,
      bodyStatements_of_single ((isSingle_guardBodies guards max body).trans hsingle),
      loc_guardBodies]
    rfl
  · cases body with
    | blockStatement ns p => rw [guardBodies_block]; rfl
    | emptyStatement p => rw [guardBodies_eq]; rfl
    | _ => simp [isSingle] at hsingle

/-- A body after both rewritings has the statements that a list of its statements would have. -/
theorem bodyStatements_guardedOne (body : Node) :
    bodyStatements (guardedOne guards max false body)
      = ((bodyStatements body).1.flatMap (guardedMany guards max false),
        (bodyStatements body).2) := by
  by_cases hsingle : isSingle body = true
  · rw [bodyStatements_of_single hsingle, List.flatMap_singleton]
    cases hg : guardInFront? guards false body with
    | none =>
      obtain ⟨hone, hmany⟩ := @guardedOne_of_none _ max _ _ hg
      have hloc : (guarded guards max body).loc = body.loc :=
        (Node.loc_mapBelow _ _ _).trans (loc_guardBodies guards max body)
      rw [hone, hmany, bodyStatements_of_single ((isSingle_guarded body).trans hsingle), hloc]
    | some guard =>
      obtain ⟨hone, hmany⟩ := @guardedOne_of_some _ max _ _ _ hg
      rw [hone, hmany]
      rfl
  · cases body with
    | blockStatement ns p => rw [guardedOne_block]; rfl
    | emptyStatement p =>
      have hempty : guardedOne guards max false (.emptyStatement p) = .emptyStatement p := by
        rw [guardedOne, guardBodies_eq]
        exact declareBelow_eq guards _
      rw [hempty]
      rfl
    | _ => simp [isSingle] at hsingle

/-- A guarded body after both rewritings. -/
theorem declareOne_guardBody (body : Node) (guard : String) :
    declareOne guards false (guardBody max (guardBodies guards max body) guard)
      = .blockStatement (guardStatements guard max
          ++ (bodyStatements (guardedOne guards max false body)).1)
          (bodyStatements (guardedOne guards max false body)).2 := by
  rw [guardBody, bodyStatements_guardBodies, bodyStatements_guardedOne]
  simp only
  rw [declareOne_block, List.flatMap_append, declareMany_guardStatements, List.flatMap_assoc]
  congr 2
  refine List.flatMap_congr fun c _ => ?_
  rw [List.flatMap_singleton]
  rfl

theorem guardedBelow_eq_mapBelow (n : Node) : guardedBelow guards max n
    = n.mapBelow (guardedOne guards max (isLabeled n)) (guardedMany guards max (isLabeled n)) := by
  rw [guardedBelow, Node.mapBelow_mapBelow]
  refine Node.mapBelow_congr fun c _ => ⟨rfl, ?_⟩
  rw [List.flatMap_singleton]
  rfl

theorem guarded_of_bare (hkeys : (guards.map Prod.fst).Nodup) {n : Node} (h : Bare guards n) :
    guarded guards max n
      = n.mapBelow (guardedOne guards max (isLabeled n)) (guardedMany guards max (isLabeled n)) :=
  (declareBelow_of_bare hkeys h max).trans (guardedBelow_eq_mapBelow n)

theorem guarded_of_guarded (hkeys : (guards.map Prod.fst).Nodup) {n : Node} {l : Loop}
    {guard : String} (hl : n.loop? = some l) (hguard : guards.lookup l.id = some guard) :
    guarded guards max n
      = (n.mapBelow (guardedOne guards max (isLabeled n))
          (guardedMany guards max (isLabeled n))).withLoopBody
            (.blockStatement (guardStatements guard max
              ++ (bodyStatements (guardedOne guards max false l.body)).1)
              (bodyStatements (guardedOne guards max false l.body)).2) := by
  rw [guarded, declareBelow_of_guarded hkeys hl hguard, guardedBelow_eq_mapBelow,
    not_labeled_of_loop hl, declareOne_guardBody]

/-- Statements without loops pass both rewritings. -/
theorem guardedMany_of_no_loops {n : Node} (h : n.loopIds = []) (behindLabel : Bool) :
    guardedMany guards max behindLabel n = [n] := by
  have hof : ∀ k ∈ n.loopIds, guards.of k = [] := by
    rw [h]
    simp
  have hlookup : ∀ k ∈ n.loopIds, guards.lookup k = none := by
    rw [h]
    simp
  rw [(guardedOne_of_none (guardInFront?_of_no_guard hlookup behindLabel)).2, guarded,
    guardBodies_of_no_guard hof, declareBelow_of_no_guard hlookup]

theorem guardedMany_all_of_no_loops {ns : List Node} (h : ns.flatMap Node.loopIds = [])
    (behindLabel : Bool) : ns.flatMap (guardedMany guards max behindLabel) = ns := by
  rw [List.flatMap_congr fun n hn =>
    guardedMany_of_no_loops (List.flatMap_eq_nil_iff.1 h n hn) behindLabel]
  exact List.flatMap_singleton' _

/-! ## One more guard -/

theorem topped_of_none {n : Node} {l : Loop} (hl : n.loop? = some l) (h : marks l.id = []) :
    marks.topped n = n := by
  rw [Marks.topped, hl]
  simp only [h]

theorem topped_of_some {n : Node} {l : Loop} (hl : n.loop? = some l) (h : marks l.id ≠ []) :
    marks.topped n = n.withLoopBody (.blockStatement
      (Marks.statements (marks l.id) ++ (bodyStatements l.body).1) (bodyStatements l.body).2) := by
  rw [Marks.topped, hl]
  simp only
  cases hm : marks l.id with
  | nil => exact absurd hm h
  | cons m ms => rfl

theorem loopIds_statements (ms : List (String × Int)) :
    (Marks.statements ms).flatMap Node.loopIds = [] := by
  rw [Marks.statements, List.flatMap_assoc, List.flatMap_eq_nil_iff]
  intro m _
  exact loopIds_guardStatements m.1 m.2

theorem loopIds_declarations (behindLabel : Bool) (n : Node) :
    (marks.declarations behindLabel n).flatMap Node.loopIds = [] := by
  rw [List.flatMap_eq_nil_iff]
  intro d hd
  rw [Marks.declarations] at hd
  split at hd
  · simp at hd
  · obtain ⟨m, -, rfl⟩ := List.mem_map.1 hd
    exact loopIds_declaration m.1

/-- A new guard is declared behind the older ones. -/
theorem declarations_push (behindLabel : Bool) (n : Node) :
    (marks.push guards max).declarations behindLabel n
      = marks.declarations behindLabel n
        ++ (guardInFront? guards behindLabel n).toList.map declaration := by
  rw [Marks.declarations, Marks.declarations, guardInFront?, guardBehind?_eq]
  cases behindLabel with
  | true => rfl
  | false =>
    cases loopBehind? n with
    | none => rfl
    | some k =>
      simp only [Bool.false_eq_true, if_false, Option.toList_some, List.flatMap_singleton,
        Marks.push, Option.bind_some]
      cases guards.lookup k <;> simp

theorem guardInFront?_carry (behindLabel : Bool) (n : Node) :
    guardInFront? guards behindLabel (carry marks n) = guardInFront? guards behindLabel n := by
  rw [guardInFront?, guardBehind?_eq, loopBehind?_carry, ← guardBehind?_eq]
  rfl

/-- Both rewritings of what takes the place of a node in a list. -/
theorem guardedMany_among {n : Node}
    (h : guarded guards max (carry marks n) = carry (marks.push guards max) n)
    (behindLabel : Bool) :
    (marks.among behindLabel n (carry marks n)).flatMap (guardedMany guards max behindLabel)
      = (marks.push guards max).among behindLabel n (carry (marks.push guards max) n) := by
  rw [Marks.among, Marks.among, List.flatMap_append,
    guardedMany_all_of_no_loops (loopIds_declarations behindLabel n), declarations_push,
    List.append_assoc, List.flatMap_singleton, ← h]
  congr 1
  rw [← @guardInFront?_carry marks guards behindLabel n]
  cases hg : guardInFront? guards behindLabel (carry marks n) with
  | none => exact (guardedOne_of_none hg).2
  | some guard => exact (guardedOne_of_some hg).2

/-- Both rewritings of what takes the place of a node in a slot for one: the block that is there
already, or the one that is made now, is the same in the end. -/
theorem guardedOne_alone {n : Node}
    (h : guarded guards max (carry marks n) = carry (marks.push guards max) n)
    (behindLabel : Bool) :
    guardedOne guards max behindLabel (marks.alone behindLabel n (carry marks n))
      = (marks.push guards max).alone behindLabel n (carry (marks.push guards max) n) := by
  have hmany := guardedMany_among h behindLabel
  have hpush := @declarations_push marks guards max behindLabel n
  rw [Marks.among, Marks.among] at hmany
  rw [Marks.alone, Marks.alone]
  cases hd : marks.declarations behindLabel n with
  | nil =>
    rw [hd, List.nil_append, ← @guardInFront?_carry marks guards behindLabel n] at hpush
    cases hg : guardInFront? guards behindLabel (carry marks n) with
    | none =>
      rw [hpush, hg]
      exact (guardedOne_of_none hg).1.trans h
    | some guard =>
      rw [hpush, hg]
      simp only
      rw [(guardedOne_of_some hg).1, h, loc_carry]
      rfl
  | cons d ds =>
    -- a statement behind a label has no declarations
    have hlabel : behindLabel = false := by
      cases behindLabel with
      | false => rfl
      | true => simp [Marks.declarations] at hd
    subst hlabel
    rw [hd] at hmany hpush
    simp only
    rw [guardedOne_block, hmany, hpush]
    rfl

theorem lookup_of_bare {n : Node} {l : Loop} (hl : n.loop? = some l) :
    Bare guards n ↔ guards.lookup l.id = none := by
  rw [Bare, Node.loopId?, hl, Option.map_some]
  constructor
  · intro h
    exact h l.id rfl
  · intro h k hk
    rw [Option.some.injEq] at hk
    rw [← hk, h]

/-- The statements of older guards stay where they are, and those of a new one come on top. -/
theorem guarded_topped (hkeys : (guards.map Prod.fst).Nodup) {n : Node} {l : Loop}
    (hl : n.loop? = some l) : guarded guards max (marks.topped n)
      = (marks.push guards max).topped
          (n.mapBelow (guardedOne guards max false) (guardedMany guards max false)) := by
  have hmapped := loop?_mapBelow (guardedOne guards max false) (guardedMany guards max false) n
  rw [hl, Option.map_some] at hmapped
  have hlabeled : isLabeled n = false := not_labeled_of_loop hl
  by_cases hmarks : marks l.id = []
  · rw [topped_of_none hl hmarks]
    cases hg : guards.lookup l.id with
    | none =>
      have hpush : marks.push guards max l.id = [] := by simp [Marks.push, hg, hmarks]
      rw [guarded_of_bare hkeys ((lookup_of_bare hl).2 hg), hlabeled,
        topped_of_none hmapped hpush]
    | some guard =>
      have hpush : marks.push guards max l.id = [(guard, max)] := by simp [Marks.push, hg, hmarks]
      rw [guarded_of_guarded hkeys hl hg, hlabeled, topped_of_some hmapped (by simp [hpush])]
      simp only [hpush]
      simp [Marks.statements]
  · -- the body is the block with the statements of the older guards
    have hbody : guardedOne guards max false (.blockStatement
        (Marks.statements (marks l.id) ++ (bodyStatements l.body).1) (bodyStatements l.body).2)
        = .blockStatement (Marks.statements (marks l.id)
          ++ (bodyStatements (guardedOne guards max false l.body)).1)
          (bodyStatements (guardedOne guards max false l.body)).2 := by
      rw [guardedOne_block, List.flatMap_append, bodyStatements_guardedOne,
        guardedMany_all_of_no_loops (loopIds_statements _)]
    have htopped := topped_of_some hl hmarks
    have hloop : (marks.topped n).loop? = some { l with
        body := .blockStatement (Marks.statements (marks l.id) ++ (bodyStatements l.body).1)
          (bodyStatements l.body).2 } := by
      rw [htopped, loop?_withLoopBody, hl]
      rfl
    have hlabeledTopped : isLabeled (marks.topped n) = false :=
      (isLabeled_topped n).trans hlabeled
    cases hg : guards.lookup l.id with
    | none =>
      have hpush : marks.push guards max l.id = marks l.id := by simp [Marks.push, hg]
      rw [guarded_of_bare hkeys ((lookup_of_bare hloop).2 hg), hlabeledTopped, htopped,
        mapBelow_withLoopBody, hbody, topped_of_some hmapped (by rw [hpush]; exact hmarks)]
      simp only [hpush]
    | some guard =>
      have hpush : marks.push guards max l.id = (guard, max) :: marks l.id := by
        simp [Marks.push, hg]
      rw [guarded_of_guarded hkeys hloop hg, hlabeledTopped, htopped, mapBelow_withLoopBody,
        withLoopBody_withLoopBody, hbody, topped_of_some hmapped (by simp [hpush])]
      simp only [hpush, bodyStatements]
      rw [Marks.statements, Marks.statements, List.flatMap_cons, List.append_assoc]

/-- **Guarding a tree that carries guards.** Loops with an entry carry one guard more, and nothing
else changes. -/
theorem guarded_carry (hkeys : (guards.map Prod.fst).Nodup) (n : Node) :
    guarded guards max (carry marks n) = carry (marks.push guards max) n := by
  induction n using Node.induction_children with
  | h n ih =>
    have hbelow : (carryBelow marks n).mapBelow (guardedOne guards max (isLabeled n))
        (guardedMany guards max (isLabeled n)) = carryBelow (marks.push guards max) n := by
      rw [carryBelow, Node.mapBelow_mapBelow]
      refine Node.mapBelow_congr fun c hc => ?_
      exact ⟨guardedOne_alone (ih c hc) _, guardedMany_among (ih c hc) _⟩
    have hloop := loop?_mapBelow (fun c => marks.alone (isLabeled n) c (carry marks c))
      (fun c => marks.among (isLabeled n) c (carry marks c)) n
    rw [← carryBelow] at hloop
    rw [carry_eq, carry_eq, ← hbelow]
    cases hl : n.loop? with
    | none =>
      rw [hl, Option.map_none] at hloop
      have hbare : Bare guards (carryBelow marks n) := by
        intro k hk
        rw [Node.loopId?, hloop] at hk
        simp at hk
      have hmapped := loop?_mapBelow (guardedOne guards max (isLabeled n))
        (guardedMany guards max (isLabeled n)) (carryBelow marks n)
      rw [hloop, Option.map_none] at hmapped
      rw [Marks.topped, Marks.topped, hloop, hmapped]
      simp only
      rw [guarded_of_bare hkeys hbare, carryBelow, isLabeled_mapBelow]
    | some l =>
      rw [hl, Option.map_some] at hloop
      rw [not_labeled_of_loop hl]
      exact guarded_topped hkeys hloop

end

/-! ## Whole trees -/

/-- **Guarding chosen loops is marking them.** -/
theorem inject_carry {marks : Marks} {ns : List Node} {p : Text.Position} {loops : List FoundLoop}
    {stem? : Option String} (hkeys : ((guardsOf loops stem?).map Prod.fst).Nodup) (max : Int) :
    inject (carry marks (.program ns p)) loops max stem?
      = carry (marks.push (guardsOf loops stem?) max) (.program ns p) := by
  have hprogram : ∃ ms, carry marks (.program ns p) = .program ms p := ⟨_, carry_eq marks _⟩
  obtain ⟨ms, hms⟩ := hprogram
  have hguarded := @guarded_carry marks _ max hkeys (.program ns p)
  rw [hms] at hguarded ⊢
  rw [inject_program]
  exact hguarded

end LoopBound.Guard
