import LoopBound.Proofs.Guard.Steps
import LoopBound.Proofs.Syntax.WellFormed

/-!
# Guarding keeps trees well-formed

What is put into a tree stands where its role lets it stand. A new body is a block of statements,
and a loop asks for a statement as its body. A declaration goes in front of a loop or of its labels;
a slot that holds one of these asks for a statement, so it also takes the declaration, or a block
that holds both.

Nothing is asked of the loops that are guarded: any numbers and names will do.
-/

namespace LoopBound.Guard

open LoopBound.Syntax

/-! ## What is put in -/

section

variable (guard : String) (max : Int)

theorem stands_declaration : Stands .statement (declaration guard) := by
  have hvariable : Stands .declarator (.variableDeclarator _ (some _) nowhere) :=
    stands_of_slots rfl rfl (.cons (filled_one (stands_identifier guard nowhere))
      (.cons (filled_some (stands_literal "0" .number nowhere)) .nil))
  exact stands_of_slots rfl rfl (.cons (List.forall_mem_singleton.2 hvariable) .nil)

theorem stands_increment : Stands .statement (increment guard) := by
  have hcount : Stands .expression (.updateExpression "++" _ false nowhere) :=
    stands_of_slots rfl rfl (.cons (filled_one (stands_identifier guard nowhere)) .nil)
  exact stands_of_slots rfl rfl (.cons (filled_one hcount) .nil)

theorem stands_check : Stands .statement (check guard max) := by
  have htest : Stands .expression (.binaryExpression ">" _ _ nowhere) :=
    stands_of_slots rfl rfl (.cons (filled_one (stands_identifier guard nowhere))
      (.cons (filled_one (stands_literal (toString max) .number nowhere)) .nil))
  have hmessage := stands_literal (Text.escaped (thresholdMessage guard max)) .string nowhere
  have herror : Stands .expression (.newExpression _ true [_] nowhere) :=
    stands_of_slots rfl rfl (.cons (filled_one (stands_identifier "RangeError" nowhere))
      (.cons (List.forall_mem_singleton.2 hmessage) .nil))
  have hthrow : Stands .statement (.throwStatement _ nowhere) :=
    stands_of_slots rfl rfl (.cons (filled_one herror) .nil)
  have hthen := (stands_block (List.forall_mem_singleton.2 hthrow) nowhere).statement_of_block
  exact stands_of_slots rfl rfl
    (.cons (filled_one htest) (.cons (filled_one hthen) (.cons (filled_none _) .nil)))

end

/-! ## Bodies -/

theorem stands_bodyStatements {body : Node} (h : Stands .statement body) :
    ∀ c ∈ (bodyStatements body).1, Stands .statement c := by
  cases body with
  | blockStatement ns p =>
    obtain ⟨-, hslots⟩ := (wellFormed_iff _).1 h.wellFormed
    exact (List.forall₂_cons.1 hslots).1
  | emptyStatement p => exact List.forall_mem_nil _
  | _ => exact List.forall_mem_singleton.2 h

theorem stands_guardBody {body : Node} (h : Stands .statement body) (max : Int) (guard : String) :
    Stands .statement (guardBody max body guard) := by
  have hguard : ∀ c ∈ guardStatements guard max, Stands .statement c :=
    List.forall_mem_cons.2 ⟨stands_increment guard,
      List.forall_mem_singleton.2 (stands_check guard max)⟩
  have hall : ∀ c ∈ guardStatements guard max ++ (bodyStatements body).1, Stands .statement c :=
    List.forall_mem_append.2 ⟨hguard, stands_bodyStatements h⟩
  exact (stands_block hall (bodyStatements body).2).statement_of_block

theorem stands_guardLoop {role : Role} {n : Node} (h : Stands role n) (guards : Guards)
    (max : Int) : Stands role (guardLoop guards max n) := by
  cases hl : n.loop? with
  | none =>
    rw [guardLoop, hl]
    exact h
  | some l =>
    rw [guardLoop_of_loop hl]
    have hbody := stands_body h.wellFormed hl
    refine ⟨(role.admits_withLoopBody n _).trans h.admits,
      wellFormed_withLoopBody h.wellFormed ?_⟩
    generalize guards.of l.id = names
    generalize l.body = body at hbody
    induction names generalizing body with
    | nil => exact hbody
    | cons name names ih => exact ih _ (stands_guardBody hbody max name)

theorem stands_guardBodies {role : Role} {n : Node} (h : Stands role n) (guards : Guards)
    (max : Int) : Stands role (guardBodies guards max n) := by
  induction n using Node.induction_children generalizing role with
  | h n ih =>
    rw [guardBodies_eq]
    refine stands_guardLoop ⟨(role.admits_mapBelow _ _ n).trans h.admits,
      wellFormed_mapBelow h.wellFormed fun c hc role' hrole => ?_⟩ guards max
    exact ⟨ih c hc hrole, List.forall_mem_singleton.2 (ih c hc hrole)⟩

/-! ## Declarations -/

theorem category_of_loopBehind? {n : Node} {k : LoopId} (h : loopBehind? n = some k) :
    n.category = .statement := by
  cases n <;> first | rfl | cases h

/-- A slot that holds a statement which may have a declaration in front asks for statements. -/
theorem eq_statement_of_guardInFront? {role : Role} {n : Node} {guards : Guards}
    {behindLabel : Bool} {guard : String} (hadmits : role.admits n = true)
    (h : guardInFront? guards behindLabel n = some guard) : role = .statement := by
  have hcategory : n.category = .statement := by
    cases behindLabel with
    | true => cases h
    | false =>
      have hguard : guardBehind? guards n = some guard := h
      rw [guardBehind?_eq] at hguard
      obtain ⟨k, hk, -⟩ := Option.bind_eq_some_iff.1 hguard
      exact category_of_loopBehind? hk
  exact role.eq_statement hadmits hcategory

theorem stands_declareOne {role : Role} {n : Node} {guards : Guards} (hn : Stands role n)
    (hbelow : Stands role (declareBelow guards n)) (behindLabel : Bool) :
    Stands role (declareOne guards behindLabel n) := by
  rw [declareOne]
  cases hguard : guardInFront? guards behindLabel n with
  | none => exact hbelow
  | some guard =>
    obtain rfl := eq_statement_of_guardInFront? hn.admits hguard
    exact (stands_block (List.forall_mem_cons.2 ⟨stands_declaration guard,
      List.forall_mem_singleton.2 hbelow⟩) n.loc).statement_of_block

theorem stands_declareMany {role : Role} {n : Node} {guards : Guards} (hn : Stands role n)
    (hbelow : Stands role (declareBelow guards n)) (behindLabel : Bool) :
    ∀ d ∈ declareMany guards behindLabel n, Stands role d := by
  rw [declareMany]
  cases hguard : guardInFront? guards behindLabel n with
  | none => exact List.forall_mem_singleton.2 hbelow
  | some guard =>
    obtain rfl := eq_statement_of_guardInFront? hn.admits hguard
    exact List.forall_mem_cons.2 ⟨stands_declaration guard, List.forall_mem_singleton.2 hbelow⟩

theorem stands_declareBelow {role : Role} {n : Node} (h : Stands role n) (guards : Guards) :
    Stands role (declareBelow guards n) := by
  induction n using Node.induction_children generalizing role with
  | h n ih =>
    rw [declareBelow_eq]
    refine ⟨(role.admits_mapBelow _ _ n).trans h.admits,
      wellFormed_mapBelow h.wellFormed fun c hc role' hrole => ?_⟩
    exact ⟨stands_declareOne hrole (ih c hc hrole) _, stands_declareMany hrole (ih c hc hrole) _⟩

/-- **A guarded tree fits where the tree did.** -/
theorem stands_inject {role : Role} {root : Node} (h : Stands role root) (loops : List FoundLoop)
    (max : Int) (stem? : Option String) : Stands role (inject root loops max stem?) := by
  rw [inject]
  split
  · exact h
  · have hbodies := stands_guardBodies h (guardsOf loops stem?) max
    simp only
    rw [declareGuards_eq]
    exact stands_declareOne hbodies (stands_declareBelow hbodies _) false

end LoopBound.Guard
