import LoopBound.Proofs.Guard.Rounds

/-!
# The declarations that were put in

A declaration that guarding puts in is known by its form: it has no position, and everything in a
text has one. The names of these declarations, read off a guarded tree in the order of the walk, are
the names of the guards in the order of their loops (`insertedNames_carry`).

A declaration stands in front of its loop, but also in front of the labels of the loop, and perhaps
in a block of its own. So what is said of a node is said of the node together with the declarations
in front of it; behind a label there are none, and the loop behind it has them further up.
-/

namespace LoopBound.Guard

open LoopBound.Syntax LoopBound.Reading

/-- The name that an inserted declaration declares. -/
def insertedName? : Node → Option String
  | .variableDeclaration .let
      [.variableDeclarator (.identifier guard a) (some (.literal "0" .number b)) c] d =>
    if [a, b, c, d] = List.replicate 4 nowhere then some guard else none
  | _ => none

/-- The names of the declarations that were put into a tree, in the order of the walk. -/
def insertedNames (n : Node) : List String :=
  n.preorder.filterMap insertedName?

theorem insertedName?_eq_some {n : Node} {guard : String} :
    insertedName? n = some guard ↔ n = declaration guard := by
  constructor
  · intro h
    unfold insertedName? at h
    split at h
    · split at h
      · rename_i hplaces
        simp only [List.replicate, List.cons.injEq, and_true] at hplaces
        obtain ⟨rfl, rfl, rfl, rfl⟩ := hplaces
        rw [← Option.some.inj h]
        rfl
      · cases h
    · cases h
  · rintro rfl
    rfl

theorem insertedNames_eq (n : Node) :
    insertedNames n = (insertedName? n).toList ++ n.children.flatMap insertedNames := by
  rw [insertedNames, Node.preorder_eq, List.filterMap_cons, List.filterMap_flatMap]
  cases insertedName? n <;> rfl

theorem insertedName?_of_loc {n : Node} (h : n.loc ≠ nowhere) : insertedName? n = none := by
  rw [Option.eq_none_iff_forall_ne_some]
  intro guard hguard
  rw [insertedName?_eq_some.1 hguard] at h
  exact h rfl

/-! ## What is put in -/

theorem insertedNames_declaration (guard : String) :
    insertedNames (declaration guard) = [guard] := by
  have hown : insertedName? (declaration guard) = some guard := insertedName?_eq_some.2 rfl
  rw [insertedNames_eq, hown]
  simp [declaration, insertedNames_eq, insertedName?, Node.children, Node.slots, Slot.nodes]

theorem insertedNames_block (ns : List Node) (p : Text.Position) :
    insertedNames (.blockStatement ns p) = ns.flatMap insertedNames := by
  rw [insertedNames_eq]
  simp [insertedName?, Node.children, Node.slots, Slot.nodes]

theorem insertedNames_guardStatements (guard : String) (max : Int) :
    (guardStatements guard max).flatMap insertedNames = [] := by
  simp [guardStatements, increment, check, insertedNames_eq, insertedName?, Node.children,
    Node.slots, Slot.nodes]

variable {marks : Marks}

/-- The names of the guards of a loop, oldest first. -/
def Marks.names (marks : Marks) (k : LoopId) : List String :=
  (marks k).reverse.map Prod.fst

theorem insertedNames_declarations (n : Node) : (marks.declarations false n).flatMap insertedNames
    = (loopBehind? n).toList.flatMap marks.names := by
  rw [Marks.declarations, if_neg (by decide), List.flatMap_map]
  simp only [insertedNames_declaration]
  cases loopBehind? n with
  | none => rfl
  | some k =>
    rw [Option.toList_some, List.flatMap_singleton, List.flatMap_singleton, Marks.names,
      List.map_eq_flatMap]

/-- The names of a node and of the declarations in front of it. -/
theorem insertedNames_among (n new : Node) : (marks.among false n new).flatMap insertedNames
    = (loopBehind? n).toList.flatMap marks.names ++ insertedNames new := by
  rw [Marks.among, List.flatMap_append, insertedNames_declarations, List.flatMap_singleton]

theorem insertedNames_alone (n new : Node) : insertedNames (marks.alone false n new)
    = (loopBehind? n).toList.flatMap marks.names ++ insertedNames new := by
  rw [← insertedNames_among, Marks.alone, Marks.among]
  cases marks.declarations false n with
  | nil => simp
  | cons d ds => exact insertedNames_block _ _

/-- The statements of a body declare what the body does. -/
theorem insertedNames_bodyStatements (body : Node) :
    (bodyStatements body).1.flatMap insertedNames = insertedNames body := by
  cases body with
  | blockStatement ns p => exact (insertedNames_block ns p).symm
  | emptyStatement p =>
    rw [insertedNames_eq]
    rfl
  | _ => exact List.flatMap_singleton ..

theorem insertedNames_statements (ms : List (String × Int)) :
    (Marks.statements ms).flatMap insertedNames = [] := by
  rw [Marks.statements, List.flatMap_assoc, List.flatMap_eq_nil_iff]
  exact fun m _ => insertedNames_guardStatements m.1 m.2

/-- Counting and throwing declare nothing. -/
theorem insertedNames_topped (n : Node) :
    (marks.topped n).children.flatMap insertedNames = n.children.flatMap insertedNames := by
  cases hl : n.loop? with
  | none => rw [Marks.topped, hl]
  | some l =>
    by_cases hmarks : marks l.id = []
    · rw [topped_of_none hl hmarks]
    · rw [topped_of_some hl hmarks]
      refine flatMap_children_withLoopBody hl ?_
      rw [insertedNames_block, List.flatMap_append, insertedNames_statements, List.nil_append,
        insertedNames_bodyStatements]

/-! ## Trees that were written -/

/-- The node has a position, and if it has a label, no loop is in the label. -/
structure WrittenNode (n : Node) : Prop where
  loc : n.loc ≠ nowhere
  label : ∀ l body p, n = .labeledStatement l body p → l.loopIds = []

/-- All nodes of the tree are as in a text. -/
def WrittenTree (n : Node) : Prop :=
  ∀ d ∈ n.preorder, WrittenNode d

theorem writtenTree_iff (n : Node) :
    WrittenTree n ↔ WrittenNode n ∧ ∀ c ∈ n.children, WrittenTree c :=
  n.forall_preorder_iff

/-- A node that was written declares no name that was put in. -/
theorem insertedName?_carry {n : Node} (h : WrittenNode n) :
    insertedName? (carry marks n) = none := by
  refine insertedName?_of_loc ?_
  rw [loc_carry]
  exact h.loc

/-- **The declarations come in the order of the loops.** A node with what is in front of it has the
names of the guards of all its loops. -/
theorem insertedNames_carry {n : Node} (h : WrittenTree n) :
    (loopBehind? n).toList.flatMap marks.names ++ insertedNames (carry marks n)
      = n.loopIds.flatMap marks.names := by
  induction n using Node.induction_children with
  | h n ih =>
    obtain ⟨hnode, hbelow⟩ := (writtenTree_iff n).1 h
    have hown := @insertedName?_carry marks n hnode
    rw [insertedNames_eq, hown, Option.toList_none, List.nil_append]
    by_cases hl : isLabeled n = true
    · -- the declarations stand in front of the label, which has no loops itself
      obtain ⟨label, body, p, rfl⟩ := isLabeled_eq_true.1 hl
      have hlabel := ih label (by simp [Node.children, Node.slots, Slot.nodes])
        (hbelow label (by simp [Node.children, Node.slots, Slot.nodes]))
      have hbody := ih body (by simp [Node.children, Node.slots, Slot.nodes])
        (hbelow body (by simp [Node.children, Node.slots, Slot.nodes]))
      have hnone := hnode.label label body p rfl
      rw [hnone, List.flatMap_nil, List.append_eq_nil_iff] at hlabel
      have hbehind : loopBehind? (.labeledStatement label body p) = loopBehind? body := rfl
      rw [carry_labeledStatement, Node.loopIds_eq, hbehind]
      simp only [Node.children, Node.slots, Slot.nodes, List.flatMap_cons, List.flatMap_nil,
        List.append_nil, List.singleton_append, hlabel.2, hnone, List.nil_append]
      exact hbody
    · have hl : isLabeled n = false := by simpa using hl
      rw [carry_eq, insertedNames_topped, carryBelow, hl, Node.loopIds_eq, List.flatMap_append,
        loopBehind?_of_not_labeled hl, List.flatMap_assoc]
      congr 1
      refine Node.flatMap_children_mapBelow fun c hc => ?_
      rw [insertedNames_alone, insertedNames_among]
      exact ⟨ih c hc (hbelow c hc), ih c hc (hbelow c hc)⟩

end LoopBound.Guard
