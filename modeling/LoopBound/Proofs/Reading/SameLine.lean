import LoopBound.Proofs.Grammar.SameLine
import LoopBound.Proofs.Reading.Edge
import LoopBound.Proofs.Reading.Order

/-!
# What a statement keeps on its line

What a `return`, `throw` or `yield` hands out and what a `break` or `continue` jumps to begins on the
line of its word. In the match it begins behind layout of the line, and so does the node that it
becomes, since an expression begins where its rule matches. No other rule makes such a statement, and
numbering the loops moves nothing.
-/

namespace LoopBound.Reading

open LoopBound.Syntax LoopBound.Grammar LoopBound.Grammar.Pattern LoopBound.Guard
open LoopBound.Text (Position)

/-! ## Lines -/

/-- Without a line feed between them two places are on one line. -/
theorem line_placeIn {text cs rest : List Char} (h : OnLine cs rest) (hcs : cs <:+ text) :
    (placeIn text rest).line = (placeIn text cs).line := by
  obtain ⟨gap, rfl, hgap⟩ := h
  obtain ⟨before, rfl⟩ := hcs
  have hcount : gap.count '\n' = 0 :=
    List.count_eq_zero.2 fun hmem => absurd (hgap _ hmem) (by decide)
  have hrest : (before ++ (gap ++ rest)).length - rest.length = (before ++ gap).length := by
    simp only [List.length_append]
    omega
  have hstart : (before ++ (gap ++ rest)).length - (gap ++ rest).length = before.length := by
    simp only [List.length_append]
    omega
  rw [placeIn_eq, placeIn_eq, Position.ofOffset_natCast, Position.ofOffset_natCast, hrest, hstart,
    List.take_left, ← List.append_assoc, List.take_left, Position.after, Position.after,
    List.count_append, hcount, Nat.add_zero]

/-- If the node keeps what it holds on its line, it does. -/
def KeepsLine (n : Node) : Prop :=
  keepsToLine n = true → ∀ c ∈ n.children, c.loc.line = n.loc.line

/-- So do all nodes of the tree. -/
def AllKeepLine (n : Node) : Prop :=
  ∀ d ∈ n.preorder, KeepsLine d

theorem allKeepLine_iff (n : Node) :
    AllKeepLine n ↔ KeepsLine n ∧ ∀ c ∈ n.children, AllKeepLine c :=
  n.forall_preorder_iff

theorem keepsLine_of_free {n : Node} (h : keepsToLine n = false) : KeepsLine n := by
  rw [KeepsLine, h]
  exact fun hn => absurd hn Bool.false_ne_true

theorem AllKeepLine.of_mem {m n : Node} (h : AllKeepLine m) (hn : n ∈ m.preorder) :
    AllKeepLine n := by
  induction m using Node.induction_children generalizing n with
  | h m ih =>
    have hall : ∀ d ∈ m.preorder, AllKeepLine d := m.forall_preorder_iff.2
      ⟨h, fun c hc d hd => ih c hc (((allKeepLine_iff m).1 h).2 c hc) hd⟩
    exact hall n hn

/-- What is put together from such trees is such a tree. -/
theorem allKeepLine_of_built {loc : Position} {ns : List Node} {n : Node}
    (hns : ∀ m ∈ ns, AllKeepLine m) (h : Built loc ns n) : AllKeepLine n := by
  induction h with
  | given h =>
    obtain ⟨m, hm, hn⟩ := h
    exact (hns m hm).of_mem hn
  | made _ hfree _ ih => exact (allKeepLine_iff _).2 ⟨keepsLine_of_free hfree, ih⟩

/-! ## Behind the word -/

/-- The rules for what may follow the word of a statement on its line. -/
def lineParts : List Rule :=
  [.sameLineExpression, .yieldArgument, .statementLabel]

/-- What follows the word begins behind layout of the line. -/
theorem begins_behind_line (locate : List Char → Position) {t : Tree} (h : t.Matched) {r : Rule}
    {source : List Char} {n : Nat} {ts : List Tree} (ht : t = .node r source n ts)
    (hr : r ∈ lineParts) : BeginsAt (Part.ofTree locate t) (locate (skipLine source)) := by
  subst ht
  have hpattern : ∃ q ∈ edgeRules, r.pattern = sequence [sameLine, rule q]
      ∧ ∀ loc ps, Part.ofRule loc r ps = Part.only ps := by
    simp only [lineParts, List.mem_cons, List.not_mem_nil, or_false] at hr
    rcases hr with rfl | rfl | rfl
    · exact ⟨.expression, by decide, rfl, fun _ _ => rfl⟩
    · exact ⟨.assignmentExpression, by decide, rfl, fun _ _ => rfl⟩
    · exact ⟨.identifier, by decide, rfl, fun _ _ => rfl⟩
  obtain ⟨q, hq, hpattern, honly⟩ := hpattern
  have htakes := h.takes
  rw [hpattern] at htakes
  obtain ⟨k, us, rfl, -⟩ := takes_rule (takes_sameLine_both htakes)
  rw [Part.ofTree, honly]
  exact begins_of_matched locate _ (h.of_mem List.mem_cons_self) q _ k us rfl hq

/-- The nodes begin on the line on which this stretch of the text begins. -/
def HeldOnLine (text source : List Char) (ns : List Node) : Prop :=
  ∀ n ∈ ns, n.loc.line = (placeIn text source).line

variable {text source rest : List Char} {ts : List Tree}

theorem held_of_linePart {k : Keyword} {mid : List Char} {q : Rule} (hq : q ∈ lineParts)
    (hts : ∀ t ∈ ts, t.Matched) (hcs : k.spelling.toList ++ mid <:+ text)
    (h : (rule q).Takes mid ts rest) :
    HeldOnLine text (k.spelling.toList ++ mid) (nodesOf (Part.ofTree.ofTrees (placeIn text) ts)) := by
  obtain ⟨n, us, rfl, -⟩ := takes_rule h
  obtain ⟨m, hm, hloc⟩ := begins_behind_line (placeIn text) (hts _ List.mem_cons_self) rfl hq
  rw [Part.ofTree.ofTrees, Part.ofTree.ofTrees, nodesOf_cons, hm]
  refine List.forall_mem_singleton.2 ?_
  rw [hloc]
  exact line_placeIn ((onLine_keyword k mid).trans (onLine_skipLine mid)) hcs

theorem held_nil : HeldOnLine text source [] := by
  intro n hn
  cases hn

/-- Behind what a jump goes to there is only the end of the statement. -/
theorem held_of_jump {k : Keyword} {q : Rule} (hq : q ∈ lineParts) (hts : ∀ t ∈ ts, t.Matched)
    (hcs : source <:+ text)
    (h : (sequence [keyword k, optional (rule q), endOfStatement]).Takes source ts rest) :
    HeldOnLine text source (nodesOf (Part.ofTree.ofTrees (placeIn text) ts)) := by
  obtain ⟨mid, rfl, htail⟩ := takes_keyword_both h
  obtain ⟨us, vs, behind, rfl, hoptional, hend⟩ := takes_both htail
  obtain ⟨rfl, -⟩ := takes_drop hend
  rw [List.append_nil] at hts ⊢
  rcases takes_optional hoptional with hpart | ⟨rfl, -⟩
  · exact held_of_linePart hq hts hcs hpart
  · exact held_nil

theorem held_of_throw (hts : ∀ t ∈ ts, t.Matched) (hcs : source <:+ text)
    (h : Rule.throwStatement.pattern.Takes source ts rest) :
    HeldOnLine text source (nodesOf (Part.ofTree.ofTrees (placeIn text) ts)) := by
  obtain ⟨mid, rfl, htail⟩ := takes_keyword_both h
  obtain ⟨us, vs, behind, rfl, hpart, hend⟩ := takes_both htail
  obtain ⟨rfl, -⟩ := takes_drop hend
  rw [List.append_nil] at hts ⊢
  exact held_of_linePart (by decide) hts hcs hpart

/-- Without a star a `yield` has at most its argument. -/
theorem held_of_yield (hts : ∀ t ∈ ts, t.Matched) (hcs : source <:+ text)
    (h : Rule.yieldExpression.pattern.Takes source ts rest)
    (hstar : (Part.splitStar (Part.ofTree.ofTrees (placeIn text) ts)).1 = false) :
    HeldOnLine text source (nodesOf (Part.ofTree.ofTrees (placeIn text) ts)) := by
  obtain ⟨mid, rfl, htail⟩ := takes_keyword_both h
  rcases takes_optional_both htail with harg | ⟨us, vs, behind, rfl, hdelegate, -⟩
  · rcases takes_optional harg with harg | ⟨rfl, -⟩
    · exact held_of_linePart (by decide) hts hcs harg
    · exact held_nil
  · obtain ⟨n, ws, rfl, -⟩ := takes_rule hdelegate
    cases hstar

/-- What a rule for such statements makes holds what the rule is handed. -/
theorem held_of_keepsToLine {r : Rule} (hr : r ∈ lineRules) (hts : ∀ t ∈ ts, t.Matched)
    (hcs : source <:+ text) (h : r.pattern.Takes source ts rest) {loc : Position} {n : Node}
    (hn : n ∈ (Part.ofRule loc r (Part.ofTree.ofTrees (placeIn text) ts)).nodes)
    (hkeeps : keepsToLine n = true) :
    HeldOnLine text source (nodesOf (Part.ofTree.ofTrees (placeIn text) ts)) := by
  simp only [lineRules, List.mem_cons, List.not_mem_nil, or_false] at hr
  rcases hr with rfl | rfl | rfl | rfl | rfl
  · exact held_of_jump (by decide) hts hcs h
  · exact held_of_throw hts hcs h
  · exact held_of_jump (by decide) hts hcs h
  · exact held_of_jump (by decide) hts hcs h
  · refine held_of_yield hts hcs h ?_
    change n ∈ (Part.yieldExpression loc _).nodes at hn
    unfold Part.yieldExpression at hn
    generalize Part.splitStar (Part.ofTree.ofTrees (placeIn text) ts) = split at hn
    obtain ⟨delegate, qs⟩ := split
    simp only at hn ⊢
    split at hn
    · obtain rfl := List.mem_singleton.1 hn
      simpa [keepsToLine] using hkeeps
    · obtain rfl := List.mem_singleton.1 hn
      simpa [keepsToLine] using hkeeps
    · cases hn

/-! ## The whole tree -/

theorem mem_nodesOf_ofTrees {locate : List Char → Position} {n : Node}
    (h : n ∈ nodesOf (Part.ofTree.ofTrees locate ts)) :
    ∃ t ∈ ts, n ∈ (Part.ofTree locate t).nodes := by
  induction ts with
  | nil => cases h
  | cons t ts ih =>
    rw [Part.ofTree.ofTrees, nodesOf_cons, List.mem_append] at h
    rcases h with h | h
    · exact ⟨t, List.mem_cons_self, h⟩
    · obtain ⟨u, hu, hn⟩ := ih h
      exact ⟨u, List.mem_cons_of_mem t hu, hn⟩

/-- The nodes that a match stands for keep what they hold on their line. -/
theorem allKeepLine_of_matched : ∀ t : Tree, t.Matched → (∀ d ∈ t.subtrees, d.source <:+ text) →
    ∀ n ∈ (Part.ofTree (placeIn text) t).nodes, AllKeepLine n := by
  refine Tree.induction_trees (fun t source k _ _ => ?_) fun r source k ts ih h hbegin => ?_
  · refine List.forall_mem_singleton.2 ((allKeepLine_iff _).2 ⟨keepsLine_of_free rfl, ?_⟩)
    simp [Part.ident, Node.children, Node.slots]
  have hts : ∀ t ∈ ts, t.Matched := fun t ht => h.of_mem ht
  have hbelow : ∀ n ∈ nodesOf (Part.ofTree.ofTrees (placeIn text) ts), AllKeepLine n := by
    intro n hn
    obtain ⟨t, ht, hn⟩ := mem_nodesOf_ofTrees hn
    refine ih t ht (hts t ht) (fun d hd => hbegin d ?_) n hn
    exact List.mem_cons_of_mem _ (Tree.mem_subtreesOf.2 ⟨t, ht, hd⟩)
  intro n hn
  rw [Part.ofTree] at hn
  by_cases hr : r ∈ lineRules
  · have hmanner : ∀ r ∈ lineRules, Manner.of r = .encloses := by decide
    have hencloses := encloses_ofRule (hmanner r hr) n hn
    refine (allKeepLine_iff n).2 ⟨fun hkeeps c hc => ?_, fun c hc => hbelow c (hencloses.children hc)⟩
    have hheld := held_of_keepsToLine hr hts (hbegin _ (Tree.mem_subtrees_self _)) h.takes hn hkeeps
    rw [hencloses.loc]
    exact hheld c (hencloses.children hc)
  · exact allKeepLine_of_built hbelow (built_ofRule hr n hn)

theorem keepsToLine_numberFrom (n : Node) (k : Nat) :
    keepsToLine (n.numberFrom k).1 = keepsToLine n := by
  have hhead : ∀ m : Node, keepsToLine m.head = keepsToLine m := fun m => by cases m <;> rfl
  obtain ⟨ss, he, hshape, -⟩ := n.numberFrom_slots k
  rw [he, ← hhead, Node.head_withSlots hshape, hhead]
  cases n <;> rfl

theorem allKeepLine_numberFrom {n : Node} (h : AllKeepLine n) (k : Nat) :
    AllKeepLine (n.numberFrom k).1 := by
  induction n using Node.induction_children generalizing k with
  | h n ih =>
    rw [allKeepLine_iff] at h ⊢
    refine ⟨fun hkeeps c' hc' => ?_, fun c' hc' => ?_⟩
    all_goals obtain ⟨c, hc, j, rfl⟩ := exists_of_mem_forall₂ (children_numberFrom n k) hc'
    · rw [keepsToLine_numberFrom] at hkeeps
      rw [loc_numberFrom, loc_numberFrom]
      exact h.1 hkeeps c hc
    · exact ih c hc (h.2 c hc) j

theorem allKeepLine_programOf {ps : List Part} {n : Node} (hps : ∀ m ∈ nodesOf ps, AllKeepLine m)
    (h : (Part.programOf ps).program? = some n) : AllKeepLine n := by
  unfold Part.programOf at h
  split at h
  · obtain rfl := Option.some.inj h
    refine (allKeepLine_iff _).2 ⟨keepsLine_of_free rfl, fun c hc => hps c ?_⟩
    simpa [Node.children, Node.slots, Slot.nodes] using hc
  · cases h

/-- What keeps to a line in a tree is on that line. -/
structure KeptLines (root : Node) : Prop where
  returned : ∀ a p, .returnStatement (some a) p ∈ root.preorder → a.loc.line = p.line
  thrown : ∀ a p, .throwStatement a p ∈ root.preorder → a.loc.line = p.line
  broken : ∀ l p, .breakStatement (some l) p ∈ root.preorder → l.loc.line = p.line
  continued : ∀ l p, .continueStatement (some l) p ∈ root.preorder → l.loc.line = p.line
  yielded : ∀ a p, .yieldExpression (some a) false p ∈ root.preorder → a.loc.line = p.line

theorem keptLines_of_allKeepLine {root : Node} (h : AllKeepLine root) : KeptLines root where
  returned a p hmem := h _ hmem rfl a (by simp [Node.children, Node.slots, Slot.nodes])
  thrown a p hmem := h _ hmem rfl a (by simp [Node.children, Node.slots, Slot.nodes])
  broken l p hmem := h _ hmem rfl l (by simp [Node.children, Node.slots, Slot.nodes])
  continued l p hmem := h _ hmem rfl l (by simp [Node.children, Node.slots, Slot.nodes])
  yielded a p hmem := h _ hmem rfl a (by simp [Node.children, Node.slots, Slot.nodes])

/-- **Restricted productions keep to their line.** In a tree that was read, what is returned, thrown
or handed out and what is jumped to begins on the line of the statement or expression; and nowhere in
the match does a line end in front of `++` or `--` behind an operand, behind a modifying `async`, or
in front of the arrow of a function. -/
theorem restricted_on_line {text : String} {root : Node} (h : parse text = .ok root) :
    KeptLines root ∧ ∃ n tree, matchProgram text.toList = some ⟨n, [tree]⟩
      ∧ ∀ d ∈ tree.subtrees, NoBreak d := by
  obtain ⟨m, hm, rfl⟩ := exists_match_of_parse h
  have hmatch : matchProgram text.toList
      = some ⟨m.length, [.node .program text.toList m.length m.trees]⟩ := by
    rw [matchProgram, match?_rule, hm]
    rfl
  have hadvances : (rule .program).Advances := fun q hq => absurd hq List.not_mem_nil
  obtain ⟨hmatched, hbegin⟩ := takes_of_subtree hadvances ⟨_, hmatch, rfl, rfl⟩ _
    List.mem_cons_self
  refine ⟨keptLines_of_allKeepLine ?_, _, _, hmatch, noBreak_of_matched hmatched⟩
  obtain ⟨ns, p, hprogram, -⟩ := @program?_ofTree (placeIn text.toList) text.toList m.length _
    (derives_match? hm)
  rw [treeOf, hprogram]
  refine allKeepLine_numberFrom (allKeepLine_programOf (fun n hn => ?_) hprogram) 0
  obtain ⟨t, ht, hn⟩ := mem_nodesOf_ofTrees hn
  refine allKeepLine_of_matched t (hmatched.of_mem ht) (fun d hd => hbegin d ?_) n hn
  exact List.mem_cons_of_mem _ (Tree.mem_subtreesOf.2 ⟨t, ht, hd⟩)

/-- An exception with a comment in front of what is thrown. -/
def thrownText : String :=
  "throw/**/a"

/-- The tree of the exception. -/
def thrownTree : Node :=
  .program [.throwStatement (.identifier "a" ⟨1, 10⟩) ⟨1, 1⟩] ⟨1, 1⟩

/-- The tree is that of the exception. -/
def isThrown : Node → Bool
  | .program [.throwStatement (.identifier "a" ⟨1, 10⟩) ⟨1, 1⟩] ⟨1, 1⟩ => true
  | _ => false

theorem eq_thrown {n : Node} (h : isThrown n = true) : n = thrownTree := by
  unfold isThrown at h
  split at h
  · rfl
  · simp at h

theorem number_thrownTree : thrownTree.number = thrownTree := by
  simp only [thrownTree, Node.number, Node.numberFrom_eq, Node.numberAll, Node.children,
    Node.slots, Slot.nodes, Node.withLoopId, List.flatMap_cons, List.flatMap_nil, List.cons_append,
    List.nil_append]
  rfl

theorem parse_thrownText : parse thrownText = .ok thrownTree := by
  have hsome : ((unnumbered? thrownText).any isThrown) = true := by decide +kernel
  obtain ⟨n, hn, hthrown⟩ := (Option.any_eq_true _ _).1 hsome
  rw [parse_of_unnumbered hn, eq_thrown hthrown, number_thrownTree]

theorem restricted_on_line_thrown : parse thrownText = .ok thrownTree
    ∧ KeptLines thrownTree ∧ ∃ n tree, matchProgram thrownText.toList = some ⟨n, [tree]⟩
      ∧ ∀ d ∈ tree.subtrees, NoBreak d :=
  ⟨parse_thrownText, restricted_on_line parse_thrownText⟩

end LoopBound.Reading
