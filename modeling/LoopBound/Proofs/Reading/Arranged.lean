import LoopBound.Proofs.Reading.Folding
import LoopBound.Proofs.Reading.Rows
import LoopBound.Reading.Meaning

/-!
# Every rule keeps the order of the source

What a rule makes of nodes in a row lies in the stretch of the row: the rule hands the nodes on, or
puts them together in their order into a node that begins where the rule matched or with the first of
them. A loop rule is told apart: its loop begins with a word in front of the row.

The value of a method begins with the method, in front of its key, although the walk comes to it
behind the key (`row_method`); no loop begins there, so the order of the loops is kept all the same.
-/

namespace LoopBound.Reading

open LoopBound.Syntax LoopBound.Grammar LoopBound.Guard
open LoopBound.Text (Position)

/-! ## The nodes of a part -/

/-- The nodes that a tail adds to its target. -/
@[simp]
def Tail.nodes : Tail → List Node
  | member property _ _ => [property]
  | call arguments _ => arguments
  | template quasi => [quasi]

/-- The nodes of a part in source order. A token counts as a name, and a program stands alone. -/
@[simp]
def Part.nodes : Part → List Node
  | nothing | kind _ | accessor _ | async | star | static | comma | head .. | program _ => []
  | token _ s p | name s p => [ident s p]
  | function params b => params ++ [b]
  | key n _ | property n | member n | heritage n | pattern n | expression n | item n
  | substitution n | template n | body n | declarator n | declaration n | binding n | init n
  | test n | update n | block n | handler n | finalizer n | case n | statement n => [n]
  | properties ns | members ns | patterns ns | items ns | arguments ns | cases ns
  | statements ns => ns
  | classTail superclass ms => superclass.toList ++ ms
  | tail t => t.nodes
  | branches c a => [c, a]
  | label t => t.toList

/-- The nodes of parts in source order. -/
def nodesOf (ps : List Part) : List Node :=
  ps.flatMap Part.nodes

@[simp]
theorem nodesOf_nil : nodesOf [] = [] := rfl

@[simp]
theorem nodesOf_cons (p : Part) (ps : List Part) : nodesOf (p :: ps) = p.nodes ++ nodesOf ps := rfl

theorem nodesOf_append (ps qs : List Part) : nodesOf (ps ++ qs) = nodesOf ps ++ nodesOf qs :=
  List.flatMap_append

/-- Parts of one sort give some of the nodes. -/
theorem nodes_filterMap {select : Part → Option Node} {ps : List Part}
    (hselect : ∀ p n, select p = some n → p.nodes = [n]) :
    (ps.filterMap select).Sublist (nodesOf ps) := by
  induction ps with
  | nil => exact .slnil
  | cons p ps ih =>
    rw [nodesOf_cons, List.filterMap_cons]
    cases hp : select p with
    | none => exact ih.trans (List.sublist_append_right _ _)
    | some n =>
      rw [hselect p n hp]
      exact ih.cons_cons n

/-- So do the entries of a list in brackets. -/
theorem nodes_entries {item? : Part → Option Node} {ps : List Part}
    (hitem : ∀ p n, item? p = some n → p.nodes = [n]) :
    ((Part.entries item? ps).filterMap id).Sublist (nodesOf ps) := by
  have hgo : ∀ pending : Option Node, ((Part.entries.go item? pending ps).filterMap id).Sublist
      (pending.toList ++ nodesOf ps) := by
    induction ps with
    | nil =>
      intro pending
      cases pending <;> simp [Part.entries.go]
    | cons p ps ih =>
      intro pending
      have hlater : ((Part.entries.go item? (item? p) ps).filterMap id).Sublist
          (pending.toList ++ nodesOf (p :: ps)) := by
        refine ((ih (item? p)).trans ?_).trans (List.sublist_append_right _ _)
        rw [nodesOf_cons]
        cases hp : item? p with
        | none => exact List.sublist_append_right _ _
        | some n => rw [hitem p n hp]; rfl
      unfold Part.entries.go
      split
      · simp at *
      · rename_i heq
        obtain ⟨rfl, rfl⟩ := List.cons.inj heq
        have hnext := ih none
        cases pending with
        | none => simpa using hnext
        | some n => simpa using hnext.cons_cons n
      · rename_i heq
        obtain ⟨rfl, rfl⟩ := List.cons.inj heq
        exact hlater
  exact hgo none

variable {written : LoopPlace → Prop} {a b loc : Position} {ps : List Part}

/-! ## The manner of a rule -/

/-- How the nodes that a rule makes lie to those that it is handed. -/
inductive Manner where
  /-- They are some of those. -/
  | handsOn
  /-- There is one, which begins where the rule matched and holds them. -/
  | encloses
  /-- There is one, which begins with the first of them and holds them. -/
  | continues
  /-- There is one, a loop, which begins where the rule matched and holds them. -/
  | loops (kind : LoopKind)
  /-- There is one, which holds something besides. -/
  | adds
  deriving DecidableEq

/-- The manner of each rule. -/
def Manner.of : Rule → Manner
  | .identifier | .propertyIdentifier | .endOfInput | .explicitSemicolon | .lineBreakEnd | .braceEnd
  | .inputEnd | .statementEnd | .declarationKind | .asyncPrefix | .generatorStar | .staticPrefix
  | .methodStar | .accessorKind | .yieldDelegate | .statementLabel | .functionHead | .postfixMark
  | .comma | .templateSubstitution | .templateSpan | .dotMember | .computedMember | .arguments
  | .optionalChain | .functionRest | .computedPropertyName | .methodDef | .propertyDefinition
  | .propertyDefinitions | .classMember | .classMembers | .classHeritage | .classTail | .className
  | .functionName | .newArguments | .newCalleeTail | .lhsHead | .lhsTail | .unaryExpression
  | .conditionalTail | .bindingTarget | .patternProperties | .arrayPatternItem | .formalParameter
  | .formalParameters | .parenthesizedParameters | .arrowParameters | .assignmentExpression
  | .arrowBody | .yieldArgument | .argument | .argumentList | .arrayElement | .sameLineExpression
  | .variableStatement | .forInit | .forTest | .forUpdate | .forBinding | .statementStartGuard
  | .statement | .elseClause | .catchParameter | .finallyClause | .statementList | .caseTest
  | .defaultTest | .caseLabel | .switchCases | .program => handsOn
  | .templateLiteral | .functionBody | .spreadElement | .keyedProperty | .objectLiteral
  | .emptyStatement | .classField | .classExpression | .functionExpression | .arrayLiteral
  | .parenthesizedExpression | .newExpression | .awaitExpression | .prefixExpression | .restElement
  | .objectPattern | .arrayPattern | .keyedPatternProperty | .arrowFunction | .yieldExpression
  | .variableDeclaration | .block | .functionDeclaration | .classDeclaration | .ifStatement
  | .continueStatement | .breakStatement | .returnStatement | .throwStatement | .tryStatement
  | .switchStatement | .debuggerStatement | .labeledStatement | .expressionStatement
  | .catchClause | .switchCase => encloses
  | .propertyName | .primaryExpression | .newCallee | .leftHandSideExpression | .postfixExpression
  | .binaryExpression | .conditionalExpression | .bindingElement | .assignment | .expression
  | .variableDeclarator => continues
  | .forStatement => loops .for
  | .forInStatement => loops .forIn
  | .forOfStatement => loops .forOf
  | .forAwaitOfStatement => loops .forAwaitOf
  | .whileStatement => loops .while
  | .doWhileStatement => loops .doWhile
  | .accessorMethod | .asyncMethod | .generatorMethod | .plainMethod | .methodDefinition
  | .shorthandProperty | .patternProperty | .forDeclaration => adds

/-! ## Rules that hand their nodes on -/

theorem nodes_only : (Part.only ps).nodes.Sublist (nodesOf ps) := by
  unfold Part.only
  split <;> simp

theorem nodes_of_handsOn {r : Rule} (hr : Manner.of r = .handsOn) :
    (Part.ofRule loc r ps).nodes.Sublist (nodesOf ps) := by
  cases r <;> cases hr
  case statementLabel | postfixMark | templateSpan | methodDef | classMember | className
    | functionName | newArguments | lhsHead | unaryExpression | arrayPatternItem | formalParameter
    | yieldArgument | assignmentExpression | sameLineExpression | elseClause | catchParameter
    | caseLabel => exact nodes_only
  case propertyDefinitions | patternProperties =>
    exact nodes_filterMap fun p n h => by cases p <;> simp_all [Part.property?]
  case classMembers => exact nodes_filterMap fun p n h => by cases p <;> simp_all [Part.member?]
  case formalParameters =>
    exact nodes_filterMap fun p n h => by cases p <;> simp_all [Part.pattern?]
  case argumentList => exact nodes_filterMap fun p n h => by cases p <;> simp_all [Part.item?]
  case statementList =>
    exact nodes_filterMap fun p n h => by cases p <;> simp_all [Part.statement?]
  case switchCases => exact nodes_filterMap fun p n h => by cases p <;> simp_all [Part.case?]
  -- the others select the parts by their shape
  all_goals
    simp only [Part.ofRule, Part.identifier, Part.propertyIdentifier, Part.declarationKind,
      Part.accessorKind, Part.functionHead, Part.dotMember, Part.computedMember, Part.argumentsOf,
      Part.optionalChain, Part.functionRest, Part.computedPropertyName, Part.propertyDefinition,
      Part.classHeritage, Part.classTailOf, Part.operandTail, Part.conditionalTail,
      Part.bindingTarget, Part.parenthesizedParameters, Part.arrowParameters, Part.arrowBody,
      Part.argument, Part.variableStatement, Part.forInit, Part.forTest, Part.forUpdate,
      Part.forBinding, Part.statementOf, Part.finallyClause, Part.caseTest, Part.programOf]
    try split
    all_goals simp

/-! ## Marks and names in front -/

@[simp]
theorem nodesOf_splitStatic (ps : List Part) : nodesOf (Part.splitStatic ps).2 = nodesOf ps := by
  unfold Part.splitStatic
  split <;> simp

@[simp]
theorem nodesOf_splitStar (ps : List Part) : nodesOf (Part.splitStar ps).2 = nodesOf ps := by
  unfold Part.splitStar
  split <;> simp

@[simp]
theorem nodesOf_splitAsync (ps : List Part) : nodesOf (Part.splitAsync ps).2 = nodesOf ps := by
  unfold Part.splitAsync
  split <;> simp

theorem nodesOf_splitName (ps : List Part) :
    (Part.splitName ps).1.toList ++ nodesOf (Part.splitName ps).2 = nodesOf ps := by
  unfold Part.splitName
  split <;> simp

theorem nodesOf_splitInit (ps : List Part) :
    (Part.splitInit ps).1.toList ++ nodesOf (Part.splitInit ps).2 = nodesOf ps := by
  unfold Part.splitInit
  split <;> simp

theorem nodesOf_splitTest (ps : List Part) :
    (Part.splitTest ps).1.toList ++ nodesOf (Part.splitTest ps).2 = nodesOf ps := by
  unfold Part.splitTest
  split <;> simp

theorem nodesOf_splitUpdate (ps : List Part) :
    (Part.splitUpdate ps).1.toList ++ nodesOf (Part.splitUpdate ps).2 = nodesOf ps := by
  unfold Part.splitUpdate
  split <;> simp

/-! ## Rules that enclose their nodes -/

theorem row_classField (h : Row written loc (nodesOf ps) b) :
    Row written loc (Part.classField loc ps).nodes b := by
  rw [← nodesOf_splitStatic] at h
  unfold Part.classField
  generalize Part.splitStatic ps = split at h
  obtain ⟨isStatic, qs⟩ := split
  simp only at h ⊢
  split
  · exact h.node rfl rfl trivial (by simp [Node.children, Node.slots, Slot.nodes])
  · exact h.node rfl rfl trivial (by simp [Node.children, Node.slots, Slot.nodes])
  · exact h.empty

theorem row_arrowFunction (h : Row written loc (nodesOf ps) b) :
    Row written loc (Part.arrowFunction loc ps).nodes b := by
  rw [← nodesOf_splitAsync] at h
  unfold Part.arrowFunction
  generalize Part.splitAsync ps = split at h
  obtain ⟨isAsync, qs⟩ := split
  simp only at h ⊢
  split
  · exact h.node rfl rfl trivial (by simp [Node.children, Node.slots, Slot.nodes])
  · exact h.empty

theorem row_yieldExpression (h : Row written loc (nodesOf ps) b) :
    Row written loc (Part.yieldExpression loc ps).nodes b := by
  rw [← nodesOf_splitStar] at h
  unfold Part.yieldExpression
  generalize Part.splitStar ps = split at h
  obtain ⟨delegate, qs⟩ := split
  simp only at h ⊢
  split
  · exact h.node rfl rfl trivial (by simp [Node.children, Node.slots, Slot.nodes])
  · exact h.node rfl rfl trivial (by simp [Node.children, Node.slots, Slot.nodes])
  · exact h.empty

theorem row_classExpression (h : Row written loc (nodesOf ps) b) :
    Row written loc (Part.classExpression loc ps).nodes b := by
  rw [← nodesOf_splitName] at h
  unfold Part.classExpression
  generalize Part.splitName ps = split at h
  obtain ⟨id, qs⟩ := split
  simp only at h ⊢
  split
  · exact h.node rfl rfl trivial (by simp [Node.children, Node.slots, Slot.nodes])
  · exact h.empty

theorem row_functionExpression (h : Row written loc (nodesOf ps) b) :
    Row written loc (Part.functionExpression loc ps).nodes b := by
  unfold Part.functionExpression
  split
  · rename_i isAsync generator qs
    rw [nodesOf_cons, Part.nodes, List.nil_append, ← nodesOf_splitName] at h
    generalize Part.splitName qs = split at h
    obtain ⟨id, qs⟩ := split
    simp only at h ⊢
    split
    · exact h.node rfl rfl trivial (by simp [Node.children, Node.slots, Slot.nodes])
    · exact h.empty
  · exact h.empty

theorem row_of_encloses {r : Rule} (hr : Manner.of r = .encloses)
    (h : Row written loc (nodesOf ps) b) : Row written loc (Part.ofRule loc r ps).nodes b := by
  cases r <;> cases hr
  case classField => exact row_classField h
  case arrowFunction => exact row_arrowFunction h
  case yieldExpression => exact row_yieldExpression h
  case classExpression => exact row_classExpression h
  case functionExpression => exact row_functionExpression h
  case templateLiteral =>
    have hnodes : (ps.filterMap Part.substitution?).Sublist (nodesOf ps) :=
      nodes_filterMap fun p n h => by cases p <;> simp_all [Part.substitution?]
    exact h.node rfl rfl trivial (by simpa [Node.children, Node.slots, Slot.nodes] using hnodes)
  case arrayLiteral =>
    have hnodes : ((Part.entries Part.item? ps).filterMap id).Sublist (nodesOf ps) :=
      nodes_entries fun p n h => by cases p <;> simp_all [Part.item?]
    exact h.node rfl rfl trivial (by simpa [Node.children, Node.slots, Slot.nodes] using hnodes)
  case arrayPattern =>
    have hnodes : ((Part.entries Part.pattern? ps).filterMap id).Sublist (nodesOf ps) :=
      nodes_entries fun p n h => by cases p <;> simp_all [Part.pattern?]
    exact h.node rfl rfl trivial (by simpa [Node.children, Node.slots, Slot.nodes] using hnodes)
  case variableDeclaration =>
    unfold Part.ofRule Part.variableDeclaration
    simp only
    split
    · rename_i k qs
      have hnodes : (qs.filterMap Part.declarator?).Sublist (nodesOf qs) :=
        nodes_filterMap fun p n h => by cases p <;> simp_all [Part.declarator?]
      exact h.node rfl rfl trivial (by simpa [Node.children, Node.slots, Slot.nodes] using hnodes)
    · exact h.empty
  -- the others select the parts by their shape
  all_goals
    simp only [Part.ofRule, Part.blockOf, Part.spreadElement, Part.keyedProperty,
      Part.objectLiteral, Part.parenthesizedExpression, Part.newExpression, Part.awaitExpression,
      Part.prefixExpression, Part.restElement, Part.objectPattern, Part.functionDeclaration,
      Part.classDeclaration, Part.ifStatement, Part.jump, Part.returnStatement,
      Part.throwStatement, Part.tryStatement, Part.switchStatement, Part.labeledStatement,
      Part.expressionStatement, Part.catchClause, Part.switchCase]
    try split
    all_goals try split
    all_goals
      first
      | exact h.empty
      | exact h.node rfl rfl trivial (by simp [Node.children, Node.slots, Slot.nodes])

/-! ## Rules that continue the first of their nodes -/

/-- A target and what its tails add become one node. -/
theorem row_foldl_apply {n : Node} {ts : List Tail}
    (h : Row written a (n :: ts.flatMap Tail.nodes) b) :
    Row written a [ts.foldl Tail.apply n] b := by
  induction ts generalizing n with
  | nil => exact h
  | cons t ts ih =>
    have hrow : Row written a ((n :: t.nodes) ++ ts.flatMap Tail.nodes) b := h
    obtain ⟨c, htarget, hrest⟩ := hrow.exists_of_append
    have happlied : Row written a [t.apply n] c := by
      cases t <;> exact htarget.first rfl rfl trivial
        (by simp [Tail.apply, Node.children, Node.slots, Slot.nodes])
    exact ih (happlied.append hrest)

theorem nodes_tails (ps : List Part) :
    ((ps.filterMap Part.tail?).flatMap Tail.nodes).Sublist (nodesOf ps) := by
  induction ps with
  | nil => exact .slnil
  | cons p ps ih =>
    rw [nodesOf_cons, List.filterMap_cons]
    cases hp : Part.tail? p with
    | none => exact ih.trans (List.sublist_append_right _ _)
    | some t =>
      have hnodes : p.nodes = t.nodes := by
        cases p <;> simp_all [Part.tail?]
      rw [hnodes]
      exact ih.append_left t.nodes

theorem row_operand (h : Row written a (nodesOf ps) b) :
    Row written a (Part.operand ps).nodes b := by
  unfold Part.operand
  split
  · rename_i n qs
    exact row_foldl_apply (h.sublist ((nodes_tails qs).cons_cons n))
  · exact h.empty

/-- The operands of a tree become one node. -/
theorem row_node {t : OperatorTree} (h : Row written a t.operands b) :
    Row written a [t.node] b := by
  induction t generalizing a b with
  | operand n => exact h
  | join op left right ihleft ihright =>
    obtain ⟨c, hleft, hright⟩ := h.exists_of_append
    have hboth : Row written a [left.node, right.node] b := (ihleft hleft).append (ihright hright)
    exact hboth.first (left.loc_node.symm) rfl trivial (.refl _)

theorem nodes_chainRest {rest : List (BinaryOperator × Node)}
    (h : Part.chainRest ps = some rest) : (rest.map (·.2)).Sublist (nodesOf ps) := by
  induction ps using Part.chainRest.induct generalizing rest with
  | case1 =>
    rw [Part.chainRest, Option.some.injEq] at h
    rw [← h]
    exact .slnil
  | case2 s p n ps op rest' hrest hop ih =>
    rw [Part.chainRest, hop, hrest, Option.some.injEq] at h
    rw [← h]
    exact .cons _ ((ih hrest).cons_cons n)
  | case3 s p n ps hnone ih =>
    rw [Part.chainRest] at h
    split at h
    · rename_i op rest' hop hrest
      exact absurd hrest (hnone op rest' hop)
    · cases h
  | case4 => simp_all [Part.chainRest]

theorem row_binaryExpression (h : Row written a (nodesOf ps) b) :
    Row written a (Part.binaryExpression ps).nodes b := by
  unfold Part.binaryExpression
  split
  · rename_i n qs
    split
    · rename_i rest hrest
      obtain ⟨t, hoperands, -, -, hnode⟩ := exists_foldChain_eq n rest
      rw [hnode]
      refine row_node ?_
      rw [hoperands]
      exact h.sublist ((nodes_chainRest hrest).cons_cons n)
    · exact h.empty
  · exact h.empty

theorem row_sequenceOf (h : Row written a (nodesOf ps) b) :
    Row written a (Part.sequenceOf ps).nodes b := by
  have hnodes : (ps.filterMap Part.expression?).Sublist (nodesOf ps) :=
    nodes_filterMap fun p n hp => by cases p <;> simp_all [Part.expression?]
  have hrow := h.sublist hnodes
  unfold Part.sequenceOf
  split
  · exact h.empty
  · rename_i n heq
    rwa [heq] at hrow
  · rename_i n ns _ heq
    rw [heq] at hrow
    exact hrow.first rfl rfl trivial (by simp [Node.children, Node.slots, Slot.nodes])

theorem row_bindingElement (h : Row written a (nodesOf ps) b) :
    Row written a (Part.bindingElement ps).nodes b := by
  unfold Part.bindingElement
  split
  · exact h
  · exact h.first rfl rfl rfl (by simp [Node.children, Node.slots, Slot.nodes])
  · exact h.empty

theorem row_of_continues {r : Rule} (hr : Manner.of r = .continues)
    (h : Row written a (nodesOf ps) b) : Row written a (Part.ofRule loc r ps).nodes b := by
  cases r <;> cases hr
  case newCallee | leftHandSideExpression => exact row_operand h
  case binaryExpression => exact row_binaryExpression h
  case expression => exact row_sequenceOf h
  case bindingElement => exact row_bindingElement h
  -- the others select the parts by their shape
  all_goals
    simp only [Part.ofRule, Part.propertyName, Part.primaryExpression, Part.wordLiteral,
      Part.postfixExpression, Part.conditionalExpression, Part.assignment, Part.variableDeclarator]
    split
    all_goals
      first
      | exact h.empty
      | exact h
      | exact h.first rfl rfl trivial (by simp [Node.children, Node.slots, Slot.nodes])

/-! ## Rules that add something -/

/-- The function of a method begins with the method, in front of the key. The key's loops come first
all the same. -/
theorem row_method (what : MemberKind) (isAsync generator : Bool)
    (h : Row written loc (nodesOf ps) b) :
    Row written loc (Part.method loc what isAsync generator ps).nodes b := by
  unfold Part.method
  split
  · rename_i k computed params body
    have hrow : Row written loc (k :: (params ++ [body])) b := by simpa using h
    have hfunction : (Node.functionExpression none params body isAsync generator loc).children
        = params ++ [body] := by
      simp [Node.children, Node.slots, Slot.nodes]
    have hvalue : Nested (.functionExpression none params body isAsync generator loc) := by
      rw [nested_iff, hfunction]
      exact fun c hc => hrow.start_le c (List.mem_cons_of_mem k hc)
    have hplaces : loopPlaces (.functionExpression none params body isAsync generator loc)
        = (params ++ [body]).flatMap loopPlaces := by
      rw [loopPlaces_of_none rfl, hfunction]
    rw [Part.nodes, Row.singleton_iff]
    refine .of_children rfl trivial (le_refl loc) hrow.le ?_ ?_
    · show ∀ c ∈ [k, .functionExpression none params body isAsync generator loc], _
      rw [List.forall_mem_cons, List.forall_mem_singleton]
      exact ⟨hrow.start_le k List.mem_cons_self, le_refl loc, hvalue⟩
    · show Stretch written loc b
        ([k, .functionExpression none params body isAsync generator loc].flatMap loopPlaces)
      rw [List.flatMap_cons, List.flatMap_singleton, hplaces]
      exact hrow.stretch
  · exact h.empty

theorem row_methodDefinition (h : Row written loc (nodesOf ps) b) :
    Row written loc (Part.methodDefinition loc ps).nodes b := by
  rw [← nodesOf_splitStatic] at h
  unfold Part.methodDefinition
  generalize Part.splitStatic ps = split at h
  obtain ⟨isStatic, qs⟩ := split
  simp only at h ⊢
  split
  · rename_i k v what computed shorthand isMethod p
    have hproperty := Row.singleton_iff.1 h
    rw [Part.nodes, Row.singleton_iff]
    refine .of_children rfl trivial (le_refl loc) h.le (fun c hc => ?_) ?_
    · obtain ⟨hle, hnested⟩ := (nested_iff _).1 hproperty.nested c hc
      exact ⟨hproperty.start.trans hle, hnested⟩
    · have hloops := hproperty.loops
      rwa [loopPlaces_of_none (by rfl)] at hloops
  · exact h.empty

theorem nested_ident (s : String) (p : Position) : Nested (Part.ident s p) := by
  rw [nested_iff]
  simp [Part.ident, Node.children, Node.slots]

theorem loopPlaces_ident (s : String) (p : Position) : loopPlaces (Part.ident s p) = [] :=
  loopPlaces_of_none rfl

/-- A name that is both key and value stands twice at one place. -/
theorem row_shorthand {s : String} {p : Position} (h : Row written a [Part.ident s p] b) :
    Row written a [.property (Part.ident s p) (some (Part.ident s p)) .init false true false p] b := by
  have hname := Row.singleton_iff.1 h
  rw [Row.singleton_iff]
  refine .of_children rfl trivial hname.start hname.stop ?_ ?_
  · show ∀ c ∈ [Part.ident s p, Part.ident s p], p ≤ c.loc ∧ Nested c
    rw [List.forall_mem_cons, List.forall_mem_singleton]
    exact ⟨⟨le_refl p, nested_ident s p⟩, le_refl p, nested_ident s p⟩
  · show Stretch written a b ([Part.ident s p, Part.ident s p].flatMap loopPlaces)
    rw [List.flatMap_cons, List.flatMap_singleton, loopPlaces_ident, List.nil_append]
    exact .nil h.le

/-- So does a name with a default. -/
theorem row_shorthandDefault {s : String} {d : Node} {p q : Position}
    (h : Row written a [.assignmentPattern (Part.ident s p) d q] b) :
    Row written a [.property (Part.ident s p)
      (some (.assignmentPattern (Part.ident s p) d q)) .init false true false p] b := by
  have htarget := Row.singleton_iff.1 h
  obtain rfl : q = p := htarget.target
  rw [Row.singleton_iff]
  refine .of_children rfl trivial htarget.start htarget.stop ?_ ?_
  · show ∀ c ∈ [Part.ident s q, .assignmentPattern (Part.ident s q) d q], q ≤ c.loc ∧ Nested c
    rw [List.forall_mem_cons, List.forall_mem_singleton]
    exact ⟨⟨le_refl q, nested_ident s q⟩, le_refl q, htarget.nested⟩
  · show Stretch written a b
      ([Part.ident s q, .assignmentPattern (Part.ident s q) d q].flatMap loopPlaces)
    rw [List.flatMap_cons, List.flatMap_singleton, loopPlaces_ident, List.nil_append]
    exact htarget.loops

theorem row_of_adds {r : Rule} (hr : Manner.of r = .adds) (h : Row written loc (nodesOf ps) b) :
    Row written loc (Part.ofRule loc r ps).nodes b := by
  cases r <;> cases hr
  case generatorMethod | plainMethod => exact row_method _ _ _ h
  case asyncMethod =>
    rw [← nodesOf_splitStar] at h
    exact row_method _ _ _ h
  case accessorMethod =>
    unfold Part.ofRule Part.accessorMethod
    simp only
    split
    · exact row_method _ _ _ h
    · exact h.empty
  case methodDefinition => exact row_methodDefinition h
  case shorthandProperty =>
    unfold Part.ofRule Part.shorthandProperty
    simp only
    split
    · exact row_shorthand h
    · exact h.empty
  case patternProperty =>
    unfold Part.ofRule Part.patternProperty
    simp only
    split
    · exact h
    · exact row_shorthand h
    · exact row_shorthandDefault h
    · exact h
    · exact h.empty
  case forDeclaration =>
    unfold Part.ofRule Part.forDeclaration
    simp only
    split
    · rename_i k n
      have hdeclarator : Row written loc [.variableDeclarator n none n.loc] b :=
        h.first rfl rfl trivial (.refl _)
      exact hdeclarator.node rfl rfl trivial (.refl _)
    · exact h.empty

/-! ## Loops -/

theorem row_forStatement {c : Position} (h : Row written c (nodesOf ps) b) (hlt : loc < c)
    (hwritten : written (.for, loc)) : Row written loc (Part.forStatement loc ps).nodes b := by
  rw [← nodesOf_splitInit, ← nodesOf_splitTest, ← nodesOf_splitUpdate] at h
  unfold Part.forStatement
  simp only
  split
  · rename_i body heq
    rw [heq] at h
    exact h.loop hlt rfl rfl trivial hwritten (by simp [Node.children, Node.slots, Slot.nodes])
  · exact h.empty.widen_left hlt.le

theorem row_of_loops {r : Rule} {kind : LoopKind} {c : Position} (hr : Manner.of r = .loops kind)
    (h : Row written c (nodesOf ps) b) (hlt : loc < c) (hwritten : written (kind, loc)) :
    Row written loc (Part.ofRule loc r ps).nodes b := by
  cases r <;> cases hr
  case forStatement => exact row_forStatement h hlt hwritten
  all_goals
    simp only [Part.ofRule, Part.forInStatement, Part.forOfStatement, Part.whileStatement,
      Part.doWhileStatement]
    split
    · exact h.loop hlt rfl rfl trivial hwritten (by simp [Node.children, Node.slots, Slot.nodes])
    · exact h.empty.widen_left hlt.le

/-- **One rule.** What a rule makes of nodes in a row lies where they do; a loop rule needs room for
its word in front of them. -/
theorem row_ofRule {r : Rule} (h : Row written loc (nodesOf ps) b)
    (hloop : ∀ kind, Manner.of r = .loops kind →
      written (kind, loc) ∧ ∃ c, loc < c ∧ Row written c (nodesOf ps) b) :
    Row written loc (Part.ofRule loc r ps).nodes b := by
  cases hr : Manner.of r with
  | handsOn => exact h.sublist (nodes_of_handsOn hr)
  | encloses => exact row_of_encloses hr h
  | continues => exact row_of_continues hr h
  | adds => exact row_of_adds hr h
  | loops kind =>
    obtain ⟨hwritten, c, hlt, hrow⟩ := hloop kind hr
    exact row_of_loops hr hrow hlt hwritten

end LoopBound.Reading
