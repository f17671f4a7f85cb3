import LoopBound.Proofs.Grammar.Alike
import LoopBound.Proofs.Grammar.Takes
import LoopBound.Proofs.Reading.Formed
import LoopBound.Proofs.Syntax.Relocate

/-!
# Positions do not matter to the meaning

No rule looks at a position; it only hands positions on. So the meaning of relocated parts is the
meaning of the parts, relocated (`relocate_of_handed`). Matches that are alike therefore stand for
trees that differ in their positions only (`ofTree_alike`), and where each of those went is said by
where the texts of the matches are.
-/

namespace LoopBound.Reading

open LoopBound.Syntax LoopBound.Grammar
open LoopBound.Text (Position)

/-! ## Parts with other positions -/

/-- The tail with its trees relocated. -/
def Tail.relocate (g : Position → Position) : Tail → Tail
  | member property computed optional => member (property.relocate g) computed optional
  | call arguments optional => call (relocateAll g arguments) optional
  | template quasi => template (quasi.relocate g)

namespace Part

/-- The part with its positions changed. A program begins where the text does and stays there. -/
def relocate (g : Position → Position) : Part → Part
  | nothing => nothing
  | token t text loc => token t text (g loc)
  | name s loc => name s (g loc)
  | kind k => kind k
  | accessor k => accessor k
  | async => async
  | star => star
  | static => static
  | comma => comma
  | head isAsync generator => head isAsync generator
  | function params b => function (relocateAll g params) (b.relocate g)
  | key k computed => key (k.relocate g) computed
  | property n => property (n.relocate g)
  | properties ns => properties (relocateAll g ns)
  | member n => member (n.relocate g)
  | members ns => members (relocateAll g ns)
  | heritage superclass => heritage (superclass.relocate g)
  | classTail superclass ns => classTail (relocateMaybe g superclass) (relocateAll g ns)
  | pattern n => pattern (n.relocate g)
  | patterns ns => patterns (relocateAll g ns)
  | expression n => expression (n.relocate g)
  | item n => item (n.relocate g)
  | items ns => items (relocateAll g ns)
  | arguments ns => arguments (relocateAll g ns)
  | substitution n => substitution (n.relocate g)
  | template n => template (n.relocate g)
  | tail t => tail (t.relocate g)
  | branches c a => branches (c.relocate g) (a.relocate g)
  | body n => body (n.relocate g)
  | declarator n => declarator (n.relocate g)
  | declaration n => declaration (n.relocate g)
  | binding n => binding (n.relocate g)
  | init n => init (n.relocate g)
  | test n => test (n.relocate g)
  | update n => update (n.relocate g)
  | block n => block (n.relocate g)
  | handler n => handler (n.relocate g)
  | finalizer n => finalizer (n.relocate g)
  | label t => label (relocateMaybe g t)
  | case n => case (n.relocate g)
  | cases ns => cases (relocateAll g ns)
  | statement n => statement (n.relocate g)
  | statements ns => statements (relocateAll g ns)
  | program n => program (n.relocateBelow g)

end Part

variable {g : Position → Position} {loc : Position} {ps : List Part}

/-! ## Selecting parts -/

theorem filterMap_relocate {select : Part → Option Node}
    (hselect : ∀ p, select (Part.relocate g p) = relocateMaybe g (select p)) (ps : List Part) :
    (ps.map (Part.relocate g)).filterMap select = relocateAll g (ps.filterMap select) := by
  induction ps with
  | nil => rfl
  | cons p ps ih =>
    rw [List.map_cons, List.filterMap_cons, List.filterMap_cons, hselect, ih]
    cases select p <;> rfl

theorem entries_relocate {item? : Part → Option Node}
    (hitem : ∀ p, item? (Part.relocate g p) = relocateMaybe g (item? p)) (ps : List Part) :
    Part.entries item? (ps.map (Part.relocate g)) = relocateSparse g (Part.entries item? ps) := by
  have hgo : ∀ pending, Part.entries.go item? (relocateMaybe g pending) (ps.map (Part.relocate g))
      = relocateSparse g (Part.entries.go item? pending ps) := by
    induction ps with
    | nil =>
      intro pending
      cases pending <;> rfl
    | cons p ps ih =>
      intro pending
      have hlater := ih (item? p)
      rw [← hitem] at hlater
      cases p
      case comma => exact congrArg (List.cons _) (ih none)
      all_goals exact hlater
  exact hgo none

theorem tails_relocate (g : Position → Position) (ps : List Part) :
    (ps.map (Part.relocate g)).filterMap Part.tail?
      = (ps.filterMap Part.tail?).map (Tail.relocate g) := by
  induction ps with
  | nil => rfl
  | cons p ps ih =>
    rw [List.map_cons, List.filterMap_cons, List.filterMap_cons, ih]
    cases p <;> rfl

theorem quasis_relocate (g : Position → Position) (ps : List Part) :
    Part.quasis (ps.map (Part.relocate g)) = Part.quasis ps := by
  induction ps with
  | nil => rfl
  | cons p ps ih =>
    cases p
    case token => exact congrArg (Part.addChunk _) ih
    all_goals exact congrArg (List.cons _) ih

theorem splitStatic_relocate (g : Position → Position) (ps : List Part) :
    Part.splitStatic (ps.map (Part.relocate g))
      = ((Part.splitStatic ps).1, (Part.splitStatic ps).2.map (Part.relocate g)) := by
  cases ps with
  | nil => rfl
  | cons p ps => cases p <;> rfl

theorem splitStar_relocate (g : Position → Position) (ps : List Part) :
    Part.splitStar (ps.map (Part.relocate g))
      = ((Part.splitStar ps).1, (Part.splitStar ps).2.map (Part.relocate g)) := by
  cases ps with
  | nil => rfl
  | cons p ps => cases p <;> rfl

theorem splitAsync_relocate (g : Position → Position) (ps : List Part) :
    Part.splitAsync (ps.map (Part.relocate g))
      = ((Part.splitAsync ps).1, (Part.splitAsync ps).2.map (Part.relocate g)) := by
  cases ps with
  | nil => rfl
  | cons p ps => cases p <;> rfl

/-- Splitting off a node in front commutes with relocating. -/
def SplitsAlike (g : Position → Position) (split : List Part → Option Node × List Part) : Prop :=
  ∀ ps, split (ps.map (Part.relocate g))
    = (relocateMaybe g (split ps).1, (split ps).2.map (Part.relocate g))

theorem splitName_relocate (g : Position → Position) : SplitsAlike g Part.splitName := by
  rintro (_ | ⟨p, ps⟩)
  · rfl
  · cases p <;> rfl

theorem splitInit_relocate (g : Position → Position) : SplitsAlike g Part.splitInit := by
  rintro (_ | ⟨p, ps⟩)
  · rfl
  · cases p <;> rfl

theorem splitTest_relocate (g : Position → Position) : SplitsAlike g Part.splitTest := by
  rintro (_ | ⟨p, ps⟩)
  · rfl
  · cases p <;> rfl

theorem splitUpdate_relocate (g : Position → Position) : SplitsAlike g Part.splitUpdate := by
  rintro (_ | ⟨p, ps⟩)
  · rfl
  · cases p <;> rfl

/-! ## Operands and operators -/

theorem apply_relocate (g : Position → Position) (t : Tail) (n : Node) :
    (t.relocate g).apply (n.relocate g) = (t.apply n).relocate g := by
  cases t <;> simp only [Tail.relocate, Tail.apply, Node.relocate, Node.loc_relocate]

theorem foldl_apply_relocate (g : Position → Position) (ts : List Tail) (n : Node) :
    (ts.map (Tail.relocate g)).foldl Tail.apply (n.relocate g)
      = (ts.foldl Tail.apply n).relocate g := by
  induction ts generalizing n with
  | nil => rfl
  | cons t ts ih => rw [List.map_cons, List.foldl_cons, apply_relocate, ih, List.foldl_cons]

theorem joined_relocate (g : Position → Position) (left right : Node) (op : BinaryOperator) :
    joined (left.relocate g) op (right.relocate g) = (joined left op right).relocate g := by
  simp only [joined, Node.relocate, Node.loc_relocate]

/-- Waiting operands relocated. -/
def relocateWaiting (g : Position → Position) (waiting : Waiting) : Waiting :=
  waiting.map fun e => (e.1.relocate g, e.2)

theorem closeBefore_relocate (g : Position → Position) (op : BinaryOperator) (waiting : Waiting)
    (right : Node) : closeBefore op (relocateWaiting g waiting) (right.relocate g)
      = (relocateWaiting g (closeBefore op waiting right).1,
        (closeBefore op waiting right).2.relocate g) := by
  induction waiting generalizing right with
  | nil => rfl
  | cons e waiting ih =>
    have hcons : relocateWaiting g (e :: waiting)
        = (e.1.relocate g, e.2) :: relocateWaiting g waiting := rfl
    rw [hcons, closeBefore, closeBefore]
    split
    · rw [joined_relocate, ih]
    · rfl

theorem closeAll_relocate (g : Position → Position) (waiting : Waiting) (right : Node) :
    closeAll (relocateWaiting g waiting) (right.relocate g)
      = (closeAll waiting right).relocate g := by
  induction waiting generalizing right with
  | nil => rfl
  | cons e waiting ih =>
    have hnext := ih (joined e.1 e.2 right)
    rw [← joined_relocate] at hnext
    exact hnext

/-- Operators and right operands relocated. -/
def relocateRest (g : Position → Position) (rest : List (BinaryOperator × Node)) :
    List (BinaryOperator × Node) :=
  rest.map fun e => (e.1, e.2.relocate g)

theorem foldRest_relocate (g : Position → Position) (waiting : Waiting) (operand : Node)
    (rest : List (BinaryOperator × Node)) :
    foldRest (relocateWaiting g waiting) (operand.relocate g) (relocateRest g rest)
      = (foldRest waiting operand rest).relocate g := by
  induction rest generalizing waiting operand with
  | nil => exact closeAll_relocate g waiting operand
  | cons e rest ih =>
    have hcons : relocateRest g (e :: rest) = (e.1, e.2.relocate g) :: relocateRest g rest := rfl
    rw [hcons, foldRest, closeBefore_relocate, foldRest]
    exact ih (((closeBefore e.1 waiting operand).2, e.1) :: (closeBefore e.1 waiting operand).1) e.2

theorem foldChain_relocate (g : Position → Position) (first : Node)
    (rest : List (BinaryOperator × Node)) :
    foldChain (first.relocate g) (relocateRest g rest) = (foldChain first rest).relocate g :=
  foldRest_relocate g [] first rest

theorem chainRest_relocate {rest : List (BinaryOperator × Node)}
    (h : Part.chainRest ps = some rest) :
    Part.chainRest (ps.map (Part.relocate g)) = some (relocateRest g rest) := by
  fun_induction Part.chainRest ps generalizing rest with
  | case1 =>
    obtain rfl := Option.some.inj h
    rfl
  | case2 s p n ps op rest' hop hrest ih =>
    obtain rfl := Option.some.inj h
    have hnext := ih hop
    simp only [List.map_cons, Part.relocate, Part.chainRest, hrest, hnext]
    rfl
  | case3 => cases h
  | case4 => cases h

/-! ## Rules -/

theorem relocate_operand (h : Part.operand ps ≠ .nothing) :
    Part.operand (ps.map (Part.relocate g)) = (Part.operand ps).relocate g := by
  unfold Part.operand at h ⊢
  split at h
  · simp only [List.map_cons, Part.relocate, tails_relocate, foldl_apply_relocate]
  · exact absurd rfl h

theorem relocate_binaryExpression (h : Part.binaryExpression ps ≠ .nothing) :
    Part.binaryExpression (ps.map (Part.relocate g)) = (Part.binaryExpression ps).relocate g := by
  unfold Part.binaryExpression at h ⊢
  split at h
  · split at h
    · rename_i rest hrest
      simp only [List.map_cons, Part.relocate, chainRest_relocate hrest, foldChain_relocate]
    · exact absurd rfl h
  · exact absurd rfl h

theorem relocate_sequenceOf (g : Position → Position) (ps : List Part) :
    Part.sequenceOf (ps.map (Part.relocate g)) = (Part.sequenceOf ps).relocate g := by
  rw [Part.sequenceOf, filterMap_relocate (fun p => by cases p <;> rfl), Part.sequenceOf]
  rcases ps.filterMap Part.expression? with _ | ⟨n, _ | ⟨m, ns⟩⟩
  · rfl
  · rfl
  · exact congrArg (fun p => Part.expression (.sequenceExpression (relocateAll g (n :: m :: ns)) p))
      (n.loc_relocate g)

theorem relocate_functionHead (g : Position → Position) (ps : List Part) :
    Part.functionHead (ps.map (Part.relocate g)) = (Part.functionHead ps).relocate g := by
  unfold Part.functionHead
  rw [splitAsync_relocate]
  simp only
  rw [splitStar_relocate]
  rfl

theorem relocate_method (what : MemberKind) (isAsync generator : Bool)
    (h : Part.method loc what isAsync generator ps ≠ .nothing) :
    Part.method (g loc) what isAsync generator (ps.map (Part.relocate g))
      = (Part.method loc what isAsync generator ps).relocate g := by
  unfold Part.method at h ⊢
  split at h
  · rfl
  · exact absurd rfl h

theorem methodKind_relocate (g : Position → Position) (what : MemberKind) (computed : Bool)
    (key : Node) :
    Part.methodKind what computed (key.relocate g) = Part.methodKind what computed key := by
  cases key with
  | identifier s p => by_cases hs : s = "constructor" <;> simp [Node.relocate, Part.methodKind, hs]
  | _ => rfl

theorem relocate_methodDefinition (h : Part.methodDefinition loc ps ≠ .nothing) :
    Part.methodDefinition (g loc) (ps.map (Part.relocate g))
      = (Part.methodDefinition loc ps).relocate g := by
  unfold Part.methodDefinition at h ⊢
  rw [splitStatic_relocate]
  generalize Part.splitStatic ps = split at h
  obtain ⟨isStatic, qs⟩ := split
  simp only at h ⊢
  split at h
  · simp only [List.map_cons, List.map_nil, Part.relocate, Node.relocate, relocateMaybe,
      methodKind_relocate]
  · exact absurd rfl h

theorem relocate_classField (h : Part.classField loc ps ≠ .nothing) :
    Part.classField (g loc) (ps.map (Part.relocate g)) = (Part.classField loc ps).relocate g := by
  unfold Part.classField at h ⊢
  rw [splitStatic_relocate]
  generalize Part.splitStatic ps = split at h
  obtain ⟨isStatic, qs⟩ := split
  simp only at h ⊢
  split at h
  · rfl
  · rfl
  · exact absurd rfl h

theorem relocate_classExpression (h : Part.classExpression loc ps ≠ .nothing) :
    Part.classExpression (g loc) (ps.map (Part.relocate g))
      = (Part.classExpression loc ps).relocate g := by
  unfold Part.classExpression at h ⊢
  rw [splitName_relocate]
  generalize Part.splitName ps = split at h
  obtain ⟨id, qs⟩ := split
  simp only at h ⊢
  split at h
  · rfl
  · exact absurd rfl h

theorem relocate_functionExpression (h : Part.functionExpression loc ps ≠ .nothing) :
    Part.functionExpression (g loc) (ps.map (Part.relocate g))
      = (Part.functionExpression loc ps).relocate g := by
  unfold Part.functionExpression at h ⊢
  split at h
  · rename_i isAsync generator qs
    simp only [List.map_cons, Part.relocate, splitName_relocate g qs] at h ⊢
    generalize Part.splitName qs = split at h
    obtain ⟨id, qs⟩ := split
    simp only at h ⊢
    split at h
    · rfl
    · exact absurd rfl h
  · exact absurd rfl h

theorem relocate_arrowFunction (h : Part.arrowFunction loc ps ≠ .nothing) :
    Part.arrowFunction (g loc) (ps.map (Part.relocate g))
      = (Part.arrowFunction loc ps).relocate g := by
  unfold Part.arrowFunction at h ⊢
  rw [splitAsync_relocate]
  generalize Part.splitAsync ps = split at h
  obtain ⟨isAsync, qs⟩ := split
  simp only at h ⊢
  split at h
  · rfl
  · exact absurd rfl h

theorem relocate_yieldExpression (h : Part.yieldExpression loc ps ≠ .nothing) :
    Part.yieldExpression (g loc) (ps.map (Part.relocate g))
      = (Part.yieldExpression loc ps).relocate g := by
  unfold Part.yieldExpression at h ⊢
  rw [splitStar_relocate]
  generalize Part.splitStar ps = split at h
  obtain ⟨delegate, qs⟩ := split
  simp only at h ⊢
  split at h
  · rfl
  · rfl
  · exact absurd rfl h

theorem relocate_forStatement (h : Part.forStatement loc ps ≠ .nothing) :
    Part.forStatement (g loc) (ps.map (Part.relocate g))
      = (Part.forStatement loc ps).relocate g := by
  unfold Part.forStatement at h ⊢
  rw [splitInit_relocate]
  simp only
  rw [splitTest_relocate]
  simp only
  rw [splitUpdate_relocate]
  simp only at h ⊢
  split at h
  · rename_i body heq
    rw [heq]
    rfl
  · exact absurd rfl h

/-- A pattern that is a name is told apart from the others by its shape, not by its position. -/
theorem relocate_patternProperty (h : Part.patternProperty ps ≠ .nothing) :
    Part.patternProperty (ps.map (Part.relocate g)) = (Part.patternProperty ps).relocate g := by
  unfold Part.patternProperty at h ⊢
  split at h
  · rfl
  · rfl
  · rfl
  · rename_i n hname hdefault
    cases n with
    | identifier s p => exact absurd rfl (hname s p)
    | assignmentPattern l r p =>
      cases l with
      | identifier s q => exact absurd rfl (hdefault s q r p)
      | _ => rfl
    | _ => rfl
  · exact absurd rfl h

/-- What a rule makes of relocated parts is what it makes of the parts, relocated. -/
theorem relocate_ofRule {r : Rule} (h : Part.ofRule loc r ps ≠ .nothing) :
    Part.ofRule (g loc) r (ps.map (Part.relocate g)) = (Part.ofRule loc r ps).relocate g := by
  cases r
  case generatorMethod | plainMethod => exact relocate_method _ _ _ h
  case accessorMethod =>
    simp only [Part.ofRule, Part.accessorMethod] at h ⊢
    split at h
    · exact relocate_method _ _ _ h
    · exact absurd rfl h
  case asyncMethod =>
    simp only [Part.ofRule, Part.asyncMethod, splitStar_relocate] at h ⊢
    exact relocate_method _ _ _ h
  case methodDefinition => exact relocate_methodDefinition h
  case classField => exact relocate_classField h
  case classExpression => exact relocate_classExpression h
  case functionExpression => exact relocate_functionExpression h
  case functionHead => exact relocate_functionHead g ps
  case arrowFunction => exact relocate_arrowFunction h
  case yieldExpression => exact relocate_yieldExpression h
  case forStatement => exact relocate_forStatement h
  case newCallee | leftHandSideExpression => exact relocate_operand h
  case binaryExpression => exact relocate_binaryExpression h
  case expression => exact relocate_sequenceOf g ps
  case patternProperty => exact relocate_patternProperty h
  case templateLiteral =>
    have hexpressions : (ps.map (Part.relocate g)).filterMap Part.substitution?
        = relocateAll g (ps.filterMap Part.substitution?) :=
      filterMap_relocate (fun p => by cases p <;> rfl) ps
    simp only [Part.ofRule, Part.templateLiteral, quasis_relocate, hexpressions]
    rfl
  case propertyDefinitions | patternProperties =>
    exact congrArg Part.properties (filterMap_relocate (fun p => by cases p <;> rfl) ps)
  case classMembers =>
    exact congrArg Part.members (filterMap_relocate (fun p => by cases p <;> rfl) ps)
  case formalParameters =>
    exact congrArg Part.patterns (filterMap_relocate (fun p => by cases p <;> rfl) ps)
  case argumentList =>
    exact congrArg Part.items (filterMap_relocate (fun p => by cases p <;> rfl) ps)
  case statementList =>
    exact congrArg Part.statements (filterMap_relocate (fun p => by cases p <;> rfl) ps)
  case switchCases =>
    exact congrArg Part.cases (filterMap_relocate (fun p => by cases p <;> rfl) ps)
  case arrayLiteral =>
    exact congrArg (fun es => Part.expression (.arrayExpression es (g loc)))
      (entries_relocate (fun p => by cases p <;> rfl) ps)
  case arrayPattern =>
    exact congrArg (fun es => Part.pattern (.arrayPattern es (g loc)))
      (entries_relocate (fun p => by cases p <;> rfl) ps)
  case variableDeclaration =>
    simp only [Part.ofRule, Part.variableDeclaration] at h ⊢
    split at h
    · rename_i k qs
      exact congrArg (fun ds => Part.declaration (.variableDeclaration k ds (g loc)))
        (filterMap_relocate (fun p => by cases p <;> rfl) qs)
    · exact absurd rfl h
  case prefixExpression =>
    simp only [Part.ofRule, Part.prefixExpression] at h ⊢
    split at h
    · simp only [List.map_cons, List.map_nil, Part.relocate]
      split <;> rfl
    · exact absurd rfl h
  -- the others select the parts by their shape
  all_goals
    try simp only [Part.ofRule, Part.identifier, Part.propertyIdentifier, Part.declarationKind,
      Part.accessorKind, Part.dotMember, Part.computedMember, Part.argumentsOf,
      Part.optionalChain, Part.functionRest, Part.computedPropertyName, Part.propertyDefinition,
      Part.classHeritage, Part.classTailOf, Part.operandTail, Part.conditionalTail,
      Part.bindingTarget, Part.parenthesizedParameters, Part.arrowParameters, Part.arrowBody,
      Part.argument, Part.variableStatement, Part.forInit, Part.forTest, Part.forUpdate,
      Part.forBinding, Part.statementOf, Part.finallyClause, Part.caseTest, Part.only,
      Part.blockOf, Part.spreadElement, Part.keyedProperty, Part.shorthandProperty,
      Part.objectLiteral, Part.parenthesizedExpression, Part.newExpression, Part.awaitExpression,
      Part.restElement, Part.objectPattern, Part.functionDeclaration, Part.classDeclaration,
      Part.ifStatement, Part.tryStatement, Part.switchStatement, Part.jump, Part.returnStatement,
      Part.throwStatement, Part.forDeclaration, Part.forInStatement, Part.forOfStatement,
      Part.whileStatement, Part.doWhileStatement, Part.labeledStatement, Part.expressionStatement,
      Part.catchClause, Part.switchCase, Part.propertyName, Part.primaryExpression, Part.programOf,
      Part.postfixExpression, Part.conditionalExpression, Part.assignment, Part.variableDeclarator,
      Part.bindingElement] at h ⊢
    try split at h
    all_goals
      first
      | rfl
      | exact absurd rfl h
      | simp only [List.map_cons, List.map_nil, Part.relocate, Node.relocate, relocateMaybe,
          relocateAll, Node.loc_relocate]

/-- A rule that should make something never makes nothing. -/
theorem nothing_of_makes {r : Rule} (h : Makes r .nothing) (loc : Position) (ps : List Part) :
    Part.ofRule loc r ps = .nothing := by
  cases r <;> first | rfl | simp [Makes, Holds, HoldsAll, HoldsMaybe, IsMethod] at h

/-- **Rules hand positions on.** -/
theorem relocate_of_handed {r : Rule} (g : Position → Position) (h : Handed r ps) :
    Part.ofRule (g loc) r (ps.map (Part.relocate g)) = (Part.ofRule loc r ps).relocate g := by
  by_cases hne : Part.ofRule loc r ps = .nothing
  · have hmakes : Makes r (Part.ofRule loc r ps) := makes_ofRule h
    rw [hne] at hmakes
    rw [nothing_of_makes hmakes, nothing_of_makes hmakes]
    rfl
  · exact relocate_ofRule hne

/-! ## Matches -/

/-- A rule that may match nothing makes nothing that begins where it matched. -/
theorem ofRule_of_mayBeEmpty {r : Rule} (h : r.mayBeEmpty = true) (loc loc' : Position)
    (ps : List Part) : Part.ofRule loc r ps = Part.ofRule loc' r ps := by
  cases r <;> first | rfl | exact absurd h (by decide)

theorem ofTrees_relocate {R : Tree → Tree → Prop} {locate locate' : List Char → Position}
    {ts ts' : List Tree} (h : List.Forall₂ R ts ts') (hone : ∀ t ∈ ts, ∀ t', R t t' →
      Part.ofTree locate' t' = (Part.ofTree locate t).relocate g) :
    Part.ofTree.ofTrees locate' ts' = (Part.ofTree.ofTrees locate ts).map (Part.relocate g) := by
  induction h with
  | nil => rfl
  | cons halike _ ih =>
    rw [Part.ofTree.ofTrees, Part.ofTree.ofTrees, List.map_cons,
      hone _ List.mem_cons_self _ halike,
      ih fun t ht => hone t (List.mem_cons_of_mem _ ht)]

/-- **Matches that are alike mean the same** up to positions. -/
theorem ofTree_alike {w : List Char} {locate locate' : List Char → Position} : ∀ t : Tree,
    t.Matched → (∀ d ∈ t.subtrees, locate' (d.source ++ w) = g (locate d.source)) →
    ∀ t', t.Alike w t' → Part.ofTree locate' t' = (Part.ofTree locate t).relocate g := by
  refine Tree.induction_trees (fun t source n _ hlocate t' halike => ?_)
    fun r source n ts ih h hlocate t' halike => ?_
  · cases halike with
    | leaf _ hn =>
      have hplace : locate' (source ++ w) = g (locate source) :=
        hlocate _ (Tree.mem_subtrees_self _)
      rw [Part.ofTree, Part.ofTree, hplace, List.take_append_of_le_length hn]
      rfl
  · cases halike with
    | node _ hsource hts =>
      rename_i source' n' ts'
      have hparts := ofTrees_relocate hts fun t ht => ih t ht (h.of_mem ht)
        fun d hd => hlocate d (List.mem_cons_of_mem _ (Tree.mem_subtreesOf.2 ⟨t, ht, hd⟩))
      obtain ⟨m, hm, rfl, -⟩ := h.takes
      have hhanded := handed_of_derives locate (derives_match? hm)
      rw [Part.ofTree, Part.ofTree, hparts, ← relocate_of_handed g hhanded]
      rcases hsource with rfl | hempty
      · have hplace : locate' (source ++ w) = g (locate source) :=
          hlocate _ (Tree.mem_subtrees_self _)
        rw [hplace]
      · exact ofRule_of_mayBeEmpty hempty _ _ _

end LoopBound.Reading
