import LoopBound.Proofs.Reading.Arranged

/-!
# What rules build

Whatever a rule makes is put together from the nodes that it is handed: a node that is new begins
where the rule matched or where one of those nodes does, and so does a new node within a new one
(`built_ofRule`). Of the nodes that keep what they hold on their line there is only the one that the
rule is for.
-/

namespace LoopBound.Reading

open LoopBound.Syntax LoopBound.Grammar
open LoopBound.Text (Position)

/-- What the node holds stands on its line. -/
def keepsToLine : Node → Bool
  | .returnStatement .. | .throwStatement .. | .breakStatement .. | .continueStatement .. => true
  | .yieldExpression _ delegate _ => !delegate
  | _ => false

/-- The rules for such nodes. -/
def lineRules : List Rule :=
  [.returnStatement, .throwStatement, .breakStatement, .continueStatement, .yieldExpression]

/-- The node stands in one of these trees. -/
def Given (ns : List Node) (d : Node) : Prop :=
  ∃ n ∈ ns, d ∈ n.preorder

/-- The node stands in one of the trees that are given, or it is put together from such nodes. -/
inductive Built (loc : Position) (ns : List Node) : Node → Prop
  | given {n : Node} (h : Given ns n) : Built loc ns n
  | made {n : Node} (hloc : n.loc = loc ∨ ∃ m, Given ns m ∧ n.loc = m.loc)
      (hfree : keepsToLine n = false) (hbelow : ∀ c ∈ n.children, Built loc ns c) : Built loc ns n

/-- All the nodes are. -/
def AllBuilt (loc : Position) (ns ms : List Node) : Prop :=
  ∀ n ∈ ms, Built loc ns n

variable {loc : Position} {m n : Node} {ns ms : List Node} {ps : List Part}

theorem given_of_mem (h : n ∈ ns) : Given ns n :=
  ⟨n, h, n.mem_preorder_self⟩

theorem Given.mono (h : Given ms n) (hsub : ms ⊆ ns) : Given ns n := by
  obtain ⟨m, hm, hn⟩ := h
  exact ⟨m, hsub hm, hn⟩

theorem Built.mono (h : Built loc ms n) (hsub : ms ⊆ ns) : Built loc ns n := by
  induction h with
  | given h => exact .given (h.mono hsub)
  | made hn hfree _ ih =>
    refine .made (hn.imp_right ?_) hfree ih
    rintro ⟨m, hm, hloc⟩
    exact ⟨m, hm.mono hsub, hloc⟩

namespace AllBuilt

theorem nil : AllBuilt loc ns [] := by
  intro n hn
  cases hn

theorem of_subset (h : ms ⊆ ns) : AllBuilt loc ns ms :=
  fun _ hn => .given (given_of_mem (h hn))

theorem singleton (h : Built loc ns n) : AllBuilt loc ns [n] :=
  List.forall_mem_singleton.2 h

/-- A node that begins where the rule matched. -/
theorem node (hloc : n.loc = loc) (hfree : keepsToLine n = false) (hchildren : n.children ⊆ ns) :
    AllBuilt loc ns [n] :=
  singleton (.made (.inl hloc) hfree fun _ hc => .given (given_of_mem (hchildren hc)))

/-- A node that begins where one that is given does. -/
theorem first (hm : m ∈ ns) (hloc : n.loc = m.loc) (hfree : keepsToLine n = false)
    (hchildren : n.children ⊆ ns) : AllBuilt loc ns [n] :=
  singleton (.made (.inr ⟨m, given_of_mem hm, hloc⟩) hfree
    fun _ hc => .given (given_of_mem (hchildren hc)))

theorem mono {ls : List Node} (h : AllBuilt loc ls ms) (hsub : ls ⊆ ns) : AllBuilt loc ns ms :=
  fun n hn => (h n hn).mono hsub

end AllBuilt

/-! ## Rules that enclose their nodes -/

/-- The node begins where the rule matched and holds nodes that are given; it keeps to its line only
if the rule is for that. -/
structure Encloses (r : Rule) (loc : Position) (ns : List Node) (n : Node) : Prop where
  loc : n.loc = loc
  children : n.children ⊆ ns
  free : r ∉ lineRules → keepsToLine n = false

/-- All the nodes do. -/
def AllEnclose (r : Rule) (loc : Position) (ns ms : List Node) : Prop :=
  ∀ n ∈ ms, Encloses r loc ns n

namespace AllEnclose

variable {r : Rule}

theorem nil : AllEnclose r loc ns [] := by
  intro n hn
  cases hn

theorem node (hloc : n.loc = loc) (hfree : keepsToLine n = false) (hchildren : n.children ⊆ ns) :
    AllEnclose r loc ns [n] :=
  List.forall_mem_singleton.2 ⟨hloc, hchildren, fun _ => hfree⟩

/-- A node that keeps to its line. -/
theorem onLine (hr : r ∈ lineRules) (hloc : n.loc = loc) (hchildren : n.children ⊆ ns) :
    AllEnclose r loc ns [n] :=
  List.forall_mem_singleton.2 ⟨hloc, hchildren, fun h => absurd hr h⟩

theorem built (h : AllEnclose r loc ns ms) (hline : r ∉ lineRules) : AllBuilt loc ns ms :=
  fun n hn => .made (.inl (h n hn).loc) ((h n hn).free hline)
    fun _ hc => .given (given_of_mem ((h n hn).children hc))

end AllEnclose

theorem encloses_classField :
    AllEnclose .classField loc (nodesOf ps) (Part.classField loc ps).nodes := by
  rw [← nodesOf_splitStatic]
  unfold Part.classField
  generalize Part.splitStatic ps = split
  obtain ⟨isStatic, qs⟩ := split
  simp only
  split
  · exact .node rfl rfl (by simp [Node.children, Node.slots, Slot.nodes])
  · exact .node rfl rfl (by simp [Node.children, Node.slots, Slot.nodes])
  · exact .nil

theorem encloses_arrowFunction :
    AllEnclose .arrowFunction loc (nodesOf ps) (Part.arrowFunction loc ps).nodes := by
  rw [← nodesOf_splitAsync]
  unfold Part.arrowFunction
  generalize Part.splitAsync ps = split
  obtain ⟨isAsync, qs⟩ := split
  simp only
  split
  · exact .node rfl rfl (by simp [Node.children, Node.slots, Slot.nodes])
  · exact .nil

theorem encloses_yieldExpression :
    AllEnclose .yieldExpression loc (nodesOf ps) (Part.yieldExpression loc ps).nodes := by
  rw [← nodesOf_splitStar]
  unfold Part.yieldExpression
  generalize Part.splitStar ps = split
  obtain ⟨delegate, qs⟩ := split
  simp only
  split
  · exact .onLine (by decide) rfl (by simp [Node.children, Node.slots, Slot.nodes])
  · exact .onLine (by decide) rfl (by simp [Node.children, Node.slots, Slot.nodes])
  · exact .nil

theorem encloses_classExpression :
    AllEnclose .classExpression loc (nodesOf ps) (Part.classExpression loc ps).nodes := by
  rw [← nodesOf_splitName]
  unfold Part.classExpression
  generalize Part.splitName ps = split
  obtain ⟨id, qs⟩ := split
  simp only
  split
  · exact .node rfl rfl (by simp [Node.children, Node.slots, Slot.nodes])
  · exact .nil

theorem encloses_functionExpression :
    AllEnclose .functionExpression loc (nodesOf ps) (Part.functionExpression loc ps).nodes := by
  unfold Part.functionExpression
  split
  · rename_i isAsync generator qs
    rw [nodesOf_cons, Part.nodes, List.nil_append, ← nodesOf_splitName]
    generalize Part.splitName qs = split
    obtain ⟨id, qs⟩ := split
    simp only
    split
    · exact .node rfl rfl (by simp [Node.children, Node.slots, Slot.nodes])
    · exact .nil
  · exact .nil

theorem encloses_ofRule {r : Rule} (hr : Manner.of r = .encloses) :
    AllEnclose r loc (nodesOf ps) (Part.ofRule loc r ps).nodes := by
  cases r <;> cases hr
  case classField => exact encloses_classField
  case arrowFunction => exact encloses_arrowFunction
  case yieldExpression => exact encloses_yieldExpression
  case classExpression => exact encloses_classExpression
  case functionExpression => exact encloses_functionExpression
  case templateLiteral =>
    have hnodes : (ps.filterMap Part.substitution?).Sublist (nodesOf ps) :=
      nodes_filterMap fun p n h => by cases p <;> simp_all [Part.substitution?]
    exact .node rfl rfl (by simpa [Node.children, Node.slots, Slot.nodes] using hnodes.subset)
  case arrayLiteral =>
    have hnodes : ((Part.entries Part.item? ps).filterMap id).Sublist (nodesOf ps) :=
      nodes_entries fun p n h => by cases p <;> simp_all [Part.item?]
    exact .node rfl rfl (by simpa [Node.children, Node.slots, Slot.nodes] using hnodes.subset)
  case arrayPattern =>
    have hnodes : ((Part.entries Part.pattern? ps).filterMap id).Sublist (nodesOf ps) :=
      nodes_entries fun p n h => by cases p <;> simp_all [Part.pattern?]
    exact .node rfl rfl (by simpa [Node.children, Node.slots, Slot.nodes] using hnodes.subset)
  case variableDeclaration =>
    unfold Part.ofRule Part.variableDeclaration
    simp only
    split
    · rename_i k qs
      have hnodes : (qs.filterMap Part.declarator?).Sublist (nodesOf qs) :=
        nodes_filterMap fun p n h => by cases p <;> simp_all [Part.declarator?]
      exact .node rfl rfl (by simpa [Node.children, Node.slots, Slot.nodes] using hnodes.subset)
    · exact .nil
  case returnStatement | throwStatement | breakStatement | continueStatement =>
    simp only [Part.ofRule, Part.returnStatement, Part.throwStatement, Part.jump]
    split
    all_goals
      first
      | exact .nil
      | exact .onLine (by decide) rfl (by simp [Node.children, Node.slots, Slot.nodes])
  -- the others select the parts by their shape
  all_goals
    simp only [Part.ofRule, Part.blockOf, Part.spreadElement, Part.keyedProperty,
      Part.objectLiteral, Part.parenthesizedExpression, Part.newExpression, Part.awaitExpression,
      Part.prefixExpression, Part.restElement, Part.objectPattern, Part.functionDeclaration,
      Part.classDeclaration, Part.ifStatement, Part.tryStatement, Part.switchStatement,
      Part.labeledStatement, Part.expressionStatement, Part.catchClause, Part.switchCase]
    try split
    all_goals try split
    all_goals
      first
      | exact .nil
      | exact .node rfl rfl (by simp [Node.children, Node.slots, Slot.nodes])

theorem built_of_loops {r : Rule} {kind : LoopKind} (hr : Manner.of r = .loops kind) :
    AllBuilt loc (nodesOf ps) (Part.ofRule loc r ps).nodes := by
  cases r <;> cases hr
  case forStatement =>
    rw [← nodesOf_splitInit, ← nodesOf_splitTest, ← nodesOf_splitUpdate]
    unfold Part.ofRule Part.forStatement
    simp only
    split
    · rename_i body heq
      rw [heq]
      exact .node rfl rfl (by simp [Node.children, Node.slots, Slot.nodes])
    · exact .nil
  all_goals
    simp only [Part.ofRule, Part.forInStatement, Part.forOfStatement, Part.whileStatement,
      Part.doWhileStatement]
    split
    · exact .node rfl rfl (by simp [Node.children, Node.slots, Slot.nodes])
    · exact .nil

/-! ## Rules that continue the first of their nodes -/

theorem built_foldl_apply {ts : List Tail} (hn : Built loc ns n)
    (hloc : ∃ m, Given ns m ∧ n.loc = m.loc) (hts : ts.flatMap Tail.nodes ⊆ ns) :
    Built loc ns (ts.foldl Tail.apply n) := by
  induction ts generalizing n with
  | nil => exact hn
  | cons t ts ih =>
    rw [List.flatMap_cons, List.append_subset] at hts
    have hsame : (t.apply n).loc = n.loc := by cases t <;> rfl
    have hchildren : (t.apply n).children = n :: t.nodes := by
      cases t <;> simp [Tail.apply, Node.children, Node.slots, Slot.nodes]
    have hfree : keepsToLine (t.apply n) = false := by cases t <;> rfl
    rw [← hsame] at hloc
    refine ih (.made (.inr hloc) hfree ?_) hloc hts.2
    rw [hchildren]
    exact List.forall_mem_cons.2 ⟨hn, fun c hc => .given (given_of_mem (hts.1 hc))⟩

theorem built_operand : AllBuilt loc (nodesOf ps) (Part.operand ps).nodes := by
  unfold Part.operand
  split
  · rename_i n qs
    have hn : Given (nodesOf (.expression n :: qs)) n := given_of_mem List.mem_cons_self
    refine .singleton (built_foldl_apply (.given hn) ⟨n, hn, rfl⟩ fun m hm => ?_)
    exact List.mem_cons_of_mem n ((nodes_tails qs).subset hm)
  · exact .nil

/-- An operand or an expression put together from operands. -/
def BuiltFirst (ns : List Node) (n : Node) : Prop :=
  (∀ loc, Built loc ns n) ∧ ∃ m, Given ns m ∧ n.loc = m.loc

theorem built_foldChain {rest : List (BinaryOperator × Node)} (hn : n ∈ ns)
    (hrest : rest.map (·.2) ⊆ ns) : Built loc ns (foldChain n rest) := by
  have hgiven : ∀ m ∈ ns, BuiltFirst ns m := fun m hm =>
    ⟨fun _ => .given (given_of_mem hm), m, given_of_mem hm, rfl⟩
  have hjoin : ∀ left op right, BuiltFirst ns left → BuiltFirst ns right →
      BuiltFirst ns (joined left op right) := by
    rintro left op right ⟨hleft, hloc⟩ ⟨hright, -⟩
    refine ⟨fun loc => .made (.inr hloc) rfl ?_, hloc⟩
    show ∀ c ∈ [left, right], _
    exact List.forall_mem_cons.2 ⟨hleft loc, List.forall_mem_singleton.2 (hright loc)⟩
  exact (foldChain_induction hjoin (hgiven n hn)
    fun e he => hgiven e.2 (hrest (List.mem_map_of_mem he))).1 loc

theorem built_binaryExpression : AllBuilt loc (nodesOf ps) (Part.binaryExpression ps).nodes := by
  unfold Part.binaryExpression
  split
  · rename_i n qs
    split
    · rename_i rest hrest
      refine .singleton (built_foldChain List.mem_cons_self fun m hm => ?_)
      exact List.mem_cons_of_mem n ((nodes_chainRest hrest).subset hm)
    · exact .nil
  · exact .nil

theorem built_sequenceOf : AllBuilt loc (nodesOf ps) (Part.sequenceOf ps).nodes := by
  have hnodes : (ps.filterMap Part.expression?).Sublist (nodesOf ps) :=
    nodes_filterMap fun p n hp => by cases p <;> simp_all [Part.expression?]
  refine AllBuilt.mono ?_ hnodes.subset
  unfold Part.sequenceOf
  split
  · exact .nil
  · rename_i n heq
    rw [heq]
    exact .of_subset (List.Subset.refl _)
  · rename_i n ns _ heq
    rw [heq]
    exact .first List.mem_cons_self rfl rfl (by simp [Node.children, Node.slots, Slot.nodes])

theorem built_of_continues {r : Rule} (hr : Manner.of r = .continues) :
    AllBuilt loc (nodesOf ps) (Part.ofRule loc r ps).nodes := by
  cases r <;> cases hr
  case newCallee | leftHandSideExpression => exact built_operand
  case binaryExpression => exact built_binaryExpression
  case expression => exact built_sequenceOf
  -- the others select the parts by their shape
  all_goals
    simp only [Part.ofRule, Part.propertyName, Part.primaryExpression, Part.wordLiteral,
      Part.postfixExpression, Part.conditionalExpression, Part.assignment, Part.variableDeclarator,
      Part.bindingElement]
    split
    all_goals
      first
      | exact .nil
      | exact .of_subset (List.Subset.refl _)
      | exact .first List.mem_cons_self rfl rfl (by simp [Node.children, Node.slots, Slot.nodes])

/-! ## Rules that add something -/

theorem built_method (what : MemberKind) (isAsync generator : Bool) :
    AllBuilt loc (nodesOf ps) (Part.method loc what isAsync generator ps).nodes := by
  unfold Part.method
  split
  · rename_i k computed params body
    refine .singleton (.made (.inl rfl) rfl ?_)
    show ∀ c ∈ [k, .functionExpression none params body isAsync generator loc], _
    rw [List.forall_mem_cons, List.forall_mem_singleton]
    have hfunction : (Node.functionExpression none params body isAsync generator loc).children
        ⊆ nodesOf [.key k computed, .function params body] := by
      simp [Node.children, Node.slots, Slot.nodes]
    exact ⟨.given (given_of_mem (by simp)), .made (.inl rfl) rfl fun c hc =>
      .given (given_of_mem (hfunction hc))⟩
  · exact .nil

theorem built_methodDefinition :
    AllBuilt loc (nodesOf ps) (Part.methodDefinition loc ps).nodes := by
  rw [← nodesOf_splitStatic]
  unfold Part.methodDefinition
  generalize Part.splitStatic ps = split
  obtain ⟨isStatic, qs⟩ := split
  simp only
  split
  · rename_i k v what computed shorthand isMethod p
    refine .singleton (.made (.inl rfl) rfl fun c hc => .given ⟨_, List.mem_cons_self, ?_⟩)
    exact Node.mem_preorder_of_mem_children hc c.mem_preorder_self
  · exact .nil

theorem built_ident {s : String} {p : Position} (h : p = loc ∨ ∃ m, Given ns m ∧ p = m.loc) :
    Built loc ns (Part.ident s p) :=
  .made h rfl (by simp [Part.ident, Node.children, Node.slots])

theorem built_patternProperty :
    AllBuilt loc (nodesOf ps) (Part.patternProperty ps).nodes := by
  unfold Part.patternProperty
  split
  · exact .of_subset (List.Subset.refl _)
  · rename_i s p
    have hname : Given (nodesOf [.pattern (.identifier s p)]) (.identifier s p) :=
      given_of_mem List.mem_cons_self
    refine .singleton (.made (.inr ⟨_, hname, rfl⟩) rfl ?_)
    show ∀ c ∈ [Part.ident s p, Part.ident s p], _
    rw [List.forall_mem_cons, List.forall_mem_singleton]
    exact ⟨built_ident (.inr ⟨_, hname, rfl⟩), built_ident (.inr ⟨_, hname, rfl⟩)⟩
  · rename_i s p d q
    have hname : Given (nodesOf [.pattern (.assignmentPattern (.identifier s p) d q)])
        (.identifier s p) := by
      refine ⟨_, List.mem_cons_self, Node.mem_preorder_of_mem_children ?_
        (Node.mem_preorder_self _)⟩
      simp [Node.children, Node.slots, Slot.nodes]
    refine .singleton (.made (.inr ⟨_, hname, rfl⟩) rfl ?_)
    show ∀ c ∈ [Part.ident s p, .assignmentPattern (.identifier s p) d q], _
    rw [List.forall_mem_cons, List.forall_mem_singleton]
    exact ⟨built_ident (.inr ⟨_, hname, rfl⟩), .given (given_of_mem List.mem_cons_self)⟩
  · exact .of_subset (List.Subset.refl _)
  · exact .nil

theorem built_of_adds {r : Rule} (hr : Manner.of r = .adds) :
    AllBuilt loc (nodesOf ps) (Part.ofRule loc r ps).nodes := by
  cases r <;> cases hr
  case generatorMethod | plainMethod => exact built_method _ _ _
  case asyncMethod =>
    rw [← nodesOf_splitStar]
    exact built_method _ _ _
  case accessorMethod =>
    unfold Part.ofRule Part.accessorMethod
    simp only
    split
    · exact built_method _ _ _
    · exact .nil
  case methodDefinition => exact built_methodDefinition
  case shorthandProperty =>
    unfold Part.ofRule Part.shorthandProperty
    simp only
    split
    · rename_i s p
      have hname : Given (nodesOf [.name s p]) (Part.ident s p) := given_of_mem List.mem_cons_self
      refine .singleton (.made (.inr ⟨_, hname, rfl⟩) rfl ?_)
      show ∀ c ∈ [Part.ident s p, Part.ident s p], _
      rw [List.forall_mem_cons, List.forall_mem_singleton]
      exact ⟨.given hname, .given hname⟩
    · exact .nil
  case patternProperty => exact built_patternProperty
  case forDeclaration =>
    unfold Part.ofRule Part.forDeclaration
    simp only
    split
    · rename_i k n
      have hdeclarator : AllBuilt loc (nodesOf [.kind k, .pattern n])
          [.variableDeclarator n none n.loc] :=
        .first (m := n) (by simp) rfl rfl (by simp [Node.children, Node.slots, Slot.nodes])
      exact .singleton (.made (.inl rfl) rfl hdeclarator)
    · exact .nil

/-- **What a rule makes is put together from what it is handed**, if it is none of those that keep
to the line. -/
theorem built_ofRule {r : Rule} (hline : r ∉ lineRules) :
    AllBuilt loc (nodesOf ps) (Part.ofRule loc r ps).nodes := by
  cases hr : Manner.of r with
  | handsOn => exact .of_subset (nodes_of_handsOn hr).subset
  | encloses => exact (encloses_ofRule hr).built hline
  | continues => exact built_of_continues hr
  | adds => exact built_of_adds hr
  | loops kind => exact built_of_loops hr

end LoopBound.Reading
