import LoopBound.Proofs.Guard.Carry
import LoopBound.Proofs.Guard.Placement

/-!
# Where the guards of a tree stand

What a tree with given marks looks like from the inside: the body of a loop begins with the
statements of all its guards, all its declarations stand in front of it in a list of statements, and
the loops are those of the tree without guards, in the same order. The loops again stand only where
a declaration can be put in front of them, so the tree can be guarded once more.
-/

namespace LoopBound.Guard

open LoopBound.Syntax LoopBound.Reading

/-- In front of each statement of the list stand all its declarations. -/
def AllDeclared (marks : Marks) (ns : List Node) : Prop :=
  ∀ s ∈ ns, ∃ pre post, ns = pre ++ marks.declarations false s ++ s :: post

/-- What holds of every node of a tree that carries guards. -/
structure CarriedNode (marks : Marks) (d : Node) : Prop where
  /-- Loops stand where a declaration can be put in front of them. -/
  quiet : QuietSlots d
  /-- The body of a loop begins with the statements of its guards. -/
  body : ∀ l, d.loop? = some l → marks l.id ≠ [] →
    ∃ rest p, l.body = .blockStatement (Marks.statements (marks l.id) ++ rest) p
  /-- In a list of statements, all declarations stand in front of their loops. -/
  declared : ∀ ns, statementList? d = some ns → AllDeclared marks ns
  /-- A loop with declarations stands, with all its labels, in a list of statements. -/
  listed : isLabeled d = false → ∀ c ∈ d.children, marks.declarations false c ≠ [] →
    ∃ ns, statementList? d = some ns ∧ c ∈ ns

/-- All nodes of the tree are as they should be. -/
def CarriedTree (marks : Marks) (n : Node) : Prop :=
  ∀ d ∈ n.preorder, CarriedNode marks d

variable {marks : Marks}

theorem carriedTree_iff (n : Node) : CarriedTree marks n
    ↔ CarriedNode marks n ∧ ∀ c ∈ n.children, CarriedTree marks c :=
  n.forall_preorder_iff

/-! ## Loops in slots -/

/-- A change that makes no loop of anything else keeps loops out of the lists. -/
theorem quietSlots_mapBelow {single : Node → Node} {splice : Node → List Node} {n : Node}
    (h : QuietSlots n) (hsingle : ∀ c, Quiet c → Quiet (single c))
    (hsplice : ∀ c, Quiet c → ∀ d ∈ splice c, Quiet d) : QuietSlots (n.mapBelow single splice) := by
  have hholds : holdsStatements (n.mapBelow single splice) = holdsStatements n := by
    rw [← holdsStatements_head, Node.head_mapBelow, holdsStatements_head]
  refine ⟨?_, ?_, ?_⟩
  · intro hn cs hcs d hd
    rw [hholds] at hn
    rw [Node.slots_mapBelow] at hcs
    obtain ⟨s, hs, he⟩ := List.mem_map.1 hcs
    cases s with
    | many ns =>
      rw [Slot.map, Slot.many.injEq] at he
      subst he
      obtain ⟨c, hc, hd⟩ := List.mem_flatMap.1 hd
      exact hsplice c (h.many hn ns hs c hc) d hd
    | _ => simp [Slot.map] at he
  · intro cs hcs d hd
    rw [Node.slots_mapBelow] at hcs
    obtain ⟨s, hs, he⟩ := List.mem_map.1 hcs
    cases s with
    | sparse ns =>
      rw [Slot.map, Slot.sparse.injEq] at he
      subst he
      obtain ⟨o, ho, rfl⟩ := List.mem_filterMap.1 hd
      obtain ⟨e, he, ho⟩ := List.mem_flatMap.1 ho
      cases e with
      | none => simp at ho
      | some c =>
        obtain ⟨x, hx, hxd⟩ := List.mem_map.1 ho
        have hc : c ∈ ns.filterMap id := List.mem_filterMap.2 ⟨some c, he, rfl⟩
        have hxd : x = d := Option.some.inj hxd
        exact hsplice c (h.sparse ns hs c hc) d (hxd ▸ hx)
    | _ => simp [Slot.map] at he
  · intro label body p he
    have hl : isLabeled n = true := by
      rw [← isLabeled_mapBelow single splice, he]
      rfl
    obtain ⟨l, b, q, rfl⟩ := isLabeled_eq_true.1 hl
    have hsame : (Node.labeledStatement l b q).mapBelow single splice
        = .labeledStatement (single l) (single b) q := rfl
    rw [hsame, Node.labeledStatement.injEq] at he
    rw [← he.1]
    exact hsingle l (h.label l b q rfl)

theorem quietSlots_withLoopBody {n : Node} (h : QuietSlots n) (body : Node) :
    QuietSlots (n.withLoopBody body) := by
  cases hl : n.loop? with
  | none =>
    have hsame : n.withLoopBody body = n := by
      cases n <;> first | rfl | simp [Node.loop?] at hl
    rw [hsame]
    exact h
  | some l =>
    -- no slot of a loop is a list
    refine ⟨?_, ?_, ?_⟩
    · intro _ cs hcs
      cases n <;> simp_all [Node.loop?, Node.withLoopBody, Node.slots]
    · intro cs hcs
      cases n <;> simp_all [Node.loop?, Node.withLoopBody, Node.slots]
    · intro label b p he
      cases n <;> simp_all [Node.loop?, Node.withLoopBody]

theorem quiet_carry {n : Node} (h : Quiet n) : Quiet (carry marks n) := by
  rw [Quiet, loopBehind?_carry]
  exact h

theorem declarations_of_quiet {n : Node} (h : Quiet n) (behindLabel : Bool) :
    marks.declarations behindLabel n = [] := by
  rw [Marks.declarations, h]
  cases behindLabel <;> rfl

theorem declarations_carry (behindLabel : Bool) (n : Node) :
    marks.declarations behindLabel (carry marks n) = marks.declarations behindLabel n := by
  rw [Marks.declarations, loopBehind?_carry, Marks.declarations]

theorem quietSlots_carryBelow {n : Node} (h : QuietSlots n) :
    QuietSlots (carryBelow marks n) := by
  refine quietSlots_mapBelow h ?_ ?_
  · intro c hc
    rw [Marks.alone, declarations_of_quiet hc]
    exact quiet_carry hc
  · intro c hc d hd
    rw [Marks.among, declarations_of_quiet hc, List.nil_append, List.mem_singleton] at hd
    rw [hd]
    exact quiet_carry hc

theorem quietSlots_topped {n : Node} (h : QuietSlots n) : QuietSlots (marks.topped n) := by
  rw [Marks.topped]
  split
  · exact h
  · split
    · exact h
    · exact quietSlots_withLoopBody h _

/-! ## What is put in -/

theorem quiet_of_no_loops {n : Node} (h : n.loopIds = []) : Quiet n :=
  (@guardBehind?_of_no_loops [] n h).2

/-- A tree without loops whose lists have none either carries nothing. -/
theorem carriedTree_of_no_loops {n : Node} (h : n.loopIds = []) : CarriedTree marks n := by
  induction n using Node.induction_children with
  | h n ih =>
    rw [Node.loopIds_eq, List.append_eq_nil_iff, List.flatMap_eq_nil_iff] at h
    obtain ⟨hown, hbelow⟩ := h
    have hquiet : ∀ c ∈ n.children, Quiet c := fun c hc => quiet_of_no_loops (hbelow c hc)
    rw [carriedTree_iff]
    refine ⟨⟨⟨?_, ?_, ?_⟩, ?_, ?_, ?_⟩, fun c hc => ih c hc (hbelow c hc)⟩
    · intro _ cs hcs c hc
      exact hquiet c (List.mem_flatMap.2 ⟨_, hcs, hc⟩)
    · intro cs hcs c hc
      exact hquiet c (List.mem_flatMap.2 ⟨_, hcs, hc⟩)
    · rintro label body p rfl
      exact hquiet label (by simp [Node.children, Node.slots, Slot.nodes])
    · intro l hl
      rw [Node.loopId?, hl] at hown
      simp at hown
    · intro ns hns s hs
      obtain ⟨pre, post, he⟩ := List.append_of_mem hs
      rw [declarations_of_quiet (hquiet s (mem_children_of_statementList? hns hs))]
      exact ⟨pre, post, by rw [List.append_nil]; exact he⟩
    · intro _ c hc hne
      exact absurd (declarations_of_quiet (hquiet c hc) false) hne

theorem mem_among {behindLabel : Bool} {n new d : Node} (h : d ∈ marks.among behindLabel n new) :
    d.loopIds = [] ∨ d = new := by
  rcases List.mem_append.1 h with h | h
  · exact .inl (List.flatMap_eq_nil_iff.1 (loopIds_declarations behindLabel n) d h)
  · exact .inr (List.mem_singleton.1 h)

/-- Declarations have none in front of them. -/
theorem allDeclared_of_no_loops {ns ms : List Node} (hns : ns.flatMap Node.loopIds = [])
    (hms : AllDeclared marks ms) : AllDeclared marks (ns ++ ms) := by
  intro s hs
  rcases List.mem_append.1 hs with hs | hs
  · obtain ⟨pre, post, he⟩ := List.append_of_mem hs
    rw [declarations_of_quiet (quiet_of_no_loops (List.flatMap_eq_nil_iff.1 hns s hs))]
    exact ⟨pre, post ++ ms, by rw [he]; simp⟩
  · obtain ⟨pre, post, he⟩ := hms s hs
    exact ⟨ns ++ pre, post, by rw [he]; simp⟩

theorem allDeclared_among (n : Node) {ms : List Node} (hms : AllDeclared marks ms) :
    AllDeclared marks (marks.among false n (carry marks n) ++ ms) := by
  intro s hs
  rcases List.mem_append.1 hs with hs | hs
  · rcases mem_among hs with hids | rfl
    · obtain ⟨pre, post, he⟩ := List.append_of_mem hs
      rw [declarations_of_quiet (quiet_of_no_loops hids), he]
      exact ⟨pre, post ++ ms, by simp⟩
    · rw [declarations_carry, Marks.among]
      exact ⟨[], ms, by simp⟩
  · obtain ⟨pre, post, he⟩ := hms s hs
    refine ⟨marks.among false n (carry marks n) ++ pre, post, ?_⟩
    conv => lhs; rw [he]
    simp

theorem allDeclared_nil : AllDeclared marks [] := by
  intro s hs
  simp at hs

theorem allDeclared_flatMap (ns : List Node) :
    AllDeclared marks (ns.flatMap fun c => marks.among false c (carry marks c)) := by
  induction ns with
  | nil => exact allDeclared_nil
  | cons n ns ih =>
    rw [List.flatMap_cons]
    exact allDeclared_among n ih

/-- A block is as it should be if its statements are. -/
theorem carriedTree_block {ns : List Node} {p : Text.Position} (hdeclared : AllDeclared marks ns)
    (hns : ∀ d ∈ ns, CarriedTree marks d) : CarriedTree marks (.blockStatement ns p) := by
  have hchildren : (Node.blockStatement ns p).children = ns := by
    simp [Node.children, Node.slots, Slot.nodes]
  rw [carriedTree_iff, hchildren]
  refine ⟨⟨⟨?_, ?_, ?_⟩, ?_, ?_, ?_⟩, hns⟩
  · simp
  · simp [Node.slots]
  · simp
  · simp [Node.loop?]
  · intro ms hms
    rw [statementList?, Option.some.injEq] at hms
    rw [← hms]
    exact hdeclared
  · intro _ c hc _
    rw [hchildren] at hc
    exact ⟨ns, rfl, hc⟩

theorem carriedTree_among {n : Node} (h : CarriedTree marks (carry marks n)) (behindLabel : Bool) :
    ∀ d ∈ marks.among behindLabel n (carry marks n), CarriedTree marks d := by
  intro d hd
  rcases mem_among hd with hids | rfl
  · exact carriedTree_of_no_loops hids
  · exact h

/-- In a slot for one node stands a block, or a node without declarations. -/
theorem carriedTree_alone {n : Node} (h : CarriedTree marks (carry marks n)) (behindLabel : Bool) :
    CarriedTree marks (marks.alone behindLabel n (carry marks n))
      ∧ (behindLabel = false →
          marks.declarations false (marks.alone behindLabel n (carry marks n)) = []) := by
  rw [Marks.alone]
  cases hd : marks.declarations behindLabel n with
  | nil =>
    refine ⟨h, ?_⟩
    rintro rfl
    rw [declarations_carry, hd]
  | cons d ds =>
    have hlabel : behindLabel = false := by
      cases behindLabel with
      | false => rfl
      | true => simp [Marks.declarations] at hd
    subst hlabel
    have hlist := allDeclared_among n (@allDeclared_nil marks)
    rw [List.append_nil, Marks.among, hd] at hlist
    have hitems := carriedTree_among h false
    rw [Marks.among, hd] at hitems
    exact ⟨carriedTree_block hlist hitems, fun _ => rfl⟩

/-- The statements of a body that has no declarations in front of it. -/
theorem carried_bodyStatements {body : Node} (h : CarriedTree marks body)
    (hbody : marks.declarations false body = []) :
    AllDeclared marks (bodyStatements body).1
      ∧ ∀ d ∈ (bodyStatements body).1, CarriedTree marks d := by
  by_cases hsingle : isSingle body = true
  · rw [bodyStatements_of_single hsingle]
    constructor
    · intro s hs
      rw [List.mem_singleton.1 hs, hbody]
      exact ⟨[], [], rfl⟩
    · intro d hd
      rw [List.mem_singleton.1 hd]
      exact h
  · cases body with
    | blockStatement ns p =>
      obtain ⟨hnode, hbelow⟩ := (carriedTree_iff _).1 h
      refine ⟨hnode.declared ns rfl, fun d hd => hbelow d ?_⟩
      simpa [Node.children, Node.slots, Slot.nodes, bodyStatements] using hd
    | emptyStatement p => exact ⟨allDeclared_nil, by simp [bodyStatements]⟩
    | _ => simp [isSingle] at hsingle

/-! ## One node -/

/-- A node with what is below it carrying its guards, apart from the body of a loop. -/
theorem carriedNode_carryBelow {n : Node} (hquiet : QuietSlots n)
    (hbelow : ∀ c ∈ n.children, CarriedTree marks (carry marks c)) :
    (∀ ns, statementList? (carryBelow marks n) = some ns → AllDeclared marks ns)
      ∧ (isLabeled n = false → ∀ d ∈ (carryBelow marks n).children,
          marks.declarations false d ≠ [] →
            ∃ ns, statementList? (carryBelow marks n) = some ns ∧ d ∈ ns) := by
  constructor
  · intro ns hns
    cases hl : isLabeled n with
    | true =>
      rw [carryBelow, statementList?_mapBelow, (statementList?_of_labeled hl).1] at hns
      simp at hns
    | false =>
      rw [carryBelow, statementList?_mapBelow, hl, Option.map_eq_some_iff] at hns
      obtain ⟨ms, -, rfl⟩ := hns
      exact allDeclared_flatMap ms
  · intro hl d hd hne
    rw [carryBelow, hl] at hd ⊢
    obtain ⟨c, hc, rfl | ⟨hd, hlist⟩⟩ := Node.mem_children_mapBelow hd
    · exact absurd ((carriedTree_alone (hbelow c hc) false).2 rfl) hne
    · -- only what stands where the loop itself stood can have declarations
      have hloop : ¬ Quiet c := by
        intro hc
        rcases mem_among hd with hids | rfl
        · exact hne (declarations_of_quiet (quiet_of_no_loops hids) false)
        · exact hne (declarations_of_quiet (quiet_carry hc) false)
      rcases hlist with ⟨cs, hcs, hc⟩ | ⟨cs, hcs, hc⟩
      · cases hholds : holdsStatements n with
        | false => exact absurd (hquiet.many hholds cs hcs c hc) hloop
        | true =>
          rw [statementList?_mapBelow, statementList?_of_holds hholds hcs]
          exact ⟨_, rfl, List.mem_flatMap.2 ⟨c, hc, hd⟩⟩
      · exact absurd (hquiet.sparse cs hcs c hc) hloop

/-- A loop with the statements of its guards in its body. -/
theorem carriedTree_topped {n : Node} {l : Loop} (hl : n.loop? = some l) (hmarks : marks l.id ≠ [])
    (hquiet : QuietSlots n) (hnone : ∀ d ∈ n.children, marks.declarations false d = [])
    (hchildren : ∀ d ∈ n.children, CarriedTree marks d) : CarriedTree marks (marks.topped n) := by
  obtain ⟨hlist, hitems⟩ := carried_bodyStatements (hchildren _ (body_mem_children hl))
    (hnone _ (body_mem_children hl))
  have hstatements := loopIds_statements (marks l.id)
  have hquiet := @quietSlots_topped marks n hquiet
  have hloop : (marks.topped n).loop? = some { l with
      body := .blockStatement (Marks.statements (marks l.id) ++ (bodyStatements l.body).1)
        (bodyStatements l.body).2 } := by
    rw [topped_of_some hl hmarks, loop?_withLoopBody, hl]
    rfl
  rw [carriedTree_iff]
  refine ⟨⟨hquiet, ?_, ?_, ?_⟩, ?_⟩
  · intro l' hl' _
    rw [hloop, Option.some.injEq] at hl'
    rw [← hl']
    exact ⟨_, _, rfl⟩
  · intro ns hns
    rw [statementList?_of_loop hloop] at hns
    simp at hns
  · intro _ d hd hne
    rw [topped_of_some hl hmarks] at hd
    rcases mem_children_withLoopBody hd with rfl | hd
    · exact absurd rfl hne
    · exact absurd (hnone d hd) hne
  · intro d hd
    rw [topped_of_some hl hmarks] at hd
    rcases mem_children_withLoopBody hd with rfl | hd
    · refine carriedTree_block (allDeclared_of_no_loops hstatements hlist) ?_
      intro e he
      rcases List.mem_append.1 he with he | he
      · exact carriedTree_of_no_loops (List.flatMap_eq_nil_iff.1 hstatements e he)
      · exact hitems e he
    · exact hchildren d hd

/-- **Every node of a tree that carries guards is as it should be.** -/
theorem carriedTree_carry {n : Node} (h : Placed n) : CarriedTree marks (carry marks n) := by
  induction n using Node.induction_children with
  | h n ih =>
    obtain ⟨hquiet, hplaced⟩ := (placed_iff n).1 h
    have hbelow : ∀ c ∈ n.children, CarriedTree marks (carry marks c) :=
      fun c hc => ih c hc (hplaced c hc)
    obtain ⟨hdeclared, hlisted⟩ := carriedNode_carryBelow hquiet hbelow
    have hquiet := @quietSlots_carryBelow marks n hquiet
    have hchildren : ∀ d ∈ (carryBelow marks n).children, CarriedTree marks d := by
      intro d hd
      obtain ⟨c, hc, rfl | ⟨hd, -⟩⟩ := Node.mem_children_mapBelow hd
      · exact (carriedTree_alone (hbelow c hc) _).1
      · exact carriedTree_among (hbelow c hc) _ d hd
    have hlabel : isLabeled (carryBelow marks n) = isLabeled n := isLabeled_mapBelow _ _ _
    rw [carry_eq]
    by_cases hmarked : ∃ l, (carryBelow marks n).loop? = some l ∧ marks l.id ≠ []
    · obtain ⟨l, hl, hmarks⟩ := hmarked
      refine carriedTree_topped hl hmarks hquiet ?_ hchildren
      intro d hd
      by_contra hne
      obtain ⟨ns, hns, -⟩ := hlisted (hlabel.symm.trans (not_labeled_of_loop hl)) d hd hne
      rw [statementList?_of_loop hl] at hns
      simp at hns
    · have hsame : marks.topped (carryBelow marks n) = carryBelow marks n := by
        cases hl : (carryBelow marks n).loop? with
        | none => rw [Marks.topped, hl]
        | some l =>
          refine topped_of_none hl ?_
          by_contra hmarks
          exact hmarked ⟨l, hl, hmarks⟩
      rw [hsame, carriedTree_iff]
      refine ⟨⟨hquiet, ?_, hdeclared, ?_⟩, hchildren⟩
      · intro l hl hmarks
        exact absurd ⟨l, hl, hmarks⟩ hmarked
      · intro hl
        exact hlisted (hlabel.symm.trans hl)

theorem placed_carry {n : Node} (h : Placed n) : Placed (carry marks n) :=
  fun d hd => (carriedTree_carry h d hd).quiet

/-! ## The loops of the tree -/

/-- What a search sees of a loop. -/
structure LoopHead where
  id : LoopId
  kind : LoopKind
  position : Text.Position

/-- What a search sees of a node. -/
def loopHead? (n : Node) : Option LoopHead :=
  n.loop?.map fun l => ⟨l.id, l.kind, n.loc⟩

/-- The loops of a tree, in the order of the walk. -/
def loopHeads (n : Node) : List LoopHead :=
  n.preorder.filterMap loopHead?

theorem loopHeads_eq (n : Node) :
    loopHeads n = (loopHead? n).toList ++ n.children.flatMap loopHeads := by
  have hbelow : n.children.flatMap loopHeads
      = (n.children.flatMap Node.preorder).filterMap loopHead? := by
    rw [List.filterMap_flatMap]
    rfl
  rw [loopHeads, Node.preorder_eq, List.filterMap_cons, hbelow]
  cases loopHead? n <;> rfl

theorem map_id_loopHeads (n : Node) : (loopHeads n).map (·.id) = n.loopIds := by
  rw [loopHeads, Node.loopIds, List.map_filterMap]
  congr 1
  funext d
  rw [loopHead?, Node.loopId?, Option.map_map]
  rfl

theorem loopHeads_of_no_loops {ns : List Node} (h : ns.flatMap Node.loopIds = []) :
    ns.flatMap loopHeads = [] := by
  rw [List.flatMap_eq_nil_iff] at h ⊢
  intro n hn
  have hids := map_id_loopHeads n
  rw [h n hn] at hids
  exact List.map_eq_nil_iff.1 hids

theorem loopHeads_block (ns : List Node) (p : Text.Position) :
    loopHeads (.blockStatement ns p) = ns.flatMap loopHeads := by
  rw [loopHeads_eq]
  simp [loopHead?, Node.loop?, Node.children, Node.slots, Slot.nodes]

theorem loopHeads_bodyStatements (body : Node) :
    (bodyStatements body).1.flatMap loopHeads = loopHeads body := by
  cases body with
  | blockStatement ns p => exact (loopHeads_block ns p).symm
  | emptyStatement p =>
    rw [loopHeads_eq]
    rfl
  | _ => exact List.flatMap_singleton ..

theorem loopHead?_carryBelow (n : Node) : loopHead? (carryBelow marks n) = loopHead? n := by
  rw [loopHead?, carryBelow, loop?_mapBelow, Node.loc_mapBelow, loopHead?, Option.map_map]
  rfl

theorem loopHeads_topped (n : Node) : loopHeads (marks.topped n) = loopHeads n := by
  cases hl : n.loop? with
  | none => rw [Marks.topped, hl]
  | some l =>
    by_cases hmarks : marks l.id = []
    · rw [topped_of_none hl hmarks]
    · have hhead : loopHead? (marks.topped n) = loopHead? n := by
        rw [topped_of_some hl hmarks, loopHead?, loop?_withLoopBody, loc_withLoopBody, loopHead?,
          Option.map_map]
        rfl
      rw [loopHeads_eq, hhead, loopHeads_eq n, topped_of_some hl hmarks]
      congr 1
      refine flatMap_children_withLoopBody hl ?_
      rw [loopHeads_block, List.flatMap_append, loopHeads_of_no_loops (loopIds_statements _),
        List.nil_append, loopHeads_bodyStatements]

/-- **Guards neither add nor hide nor move a loop.** -/
theorem loopHeads_carry (n : Node) : loopHeads (carry marks n) = loopHeads n := by
  induction n using Node.induction_children with
  | h n ih =>
    have hamong : ∀ c ∈ n.children, ∀ behindLabel,
        (marks.among behindLabel c (carry marks c)).flatMap loopHeads = loopHeads c := by
      intro c hc behindLabel
      rw [Marks.among, List.flatMap_append, loopHeads_of_no_loops (loopIds_declarations _ _),
        List.nil_append, List.flatMap_singleton, ih c hc]
    rw [carry_eq, loopHeads_topped, loopHeads_eq, loopHead?_carryBelow, loopHeads_eq n]
    congr 1
    refine Node.flatMap_children_mapBelow fun c hc => ⟨?_, hamong c hc _⟩
    have hmany := hamong c hc (isLabeled n)
    rw [Marks.among] at hmany
    rw [Marks.alone]
    split
    · exact ih c hc
    · rename_i d ds hd
      rw [hd] at hmany
      rw [loopHeads_block]
      exact hmany

end LoopBound.Guard
