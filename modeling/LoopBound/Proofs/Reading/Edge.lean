import LoopBound.Proofs.Grammar.Takes
import LoopBound.Proofs.Reading.Built
import LoopBound.Proofs.Reading.Formed

/-!
# Where expressions begin

An expression begins where its leftmost piece does, however deep that is: a node with an operand in
front takes over where the operand begins. So the node that such a rule makes begins where the rule
matches (`begins_of_matched`).
-/

namespace LoopBound.Reading

open LoopBound.Syntax LoopBound.Grammar LoopBound.Grammar.Pattern LoopBound.Guard
open LoopBound.Text (Position)

/-! ## The left edge of an expression -/

/-- The rules whose node begins where they match. -/
def edgeRules : List Rule :=
  [.identifier, .templateLiteral, .functionExpression, .classExpression, .arrayLiteral,
    .objectLiteral, .parenthesizedExpression, .primaryExpression, .newExpression, .lhsHead,
    .leftHandSideExpression, .postfixExpression, .awaitExpression, .prefixExpression,
    .unaryExpression, .binaryExpression, .conditionalExpression, .arrowFunction, .yieldExpression,
    .assignment, .assignmentExpression, .expression]

/-- The pattern looks ahead. -/
def looksAhead : Pattern → Bool
  | .absent _ => true
  | _ => false

/-- What the pattern keeps begins with a token, or with a match of such a rule. -/
def hasEdge : Pattern → Bool
  | .token _ => true
  | .rule r => r ∈ edgeRules
  | .both p q => hasEdge p || looksAhead p && hasEdge q
  | .either p q => hasEdge p && hasEdge q
  | _ => false

theorem exists_edge {p : Pattern} (hp : hasEdge p = true) {cs rest : List Char} {ts : List Tree}
    (h : p.Takes cs ts rest) : ∃ t us, ts = t :: us ∧ t.source = cs
      ∧ ∀ r source n vs, t = .node r source n vs → r ∈ edgeRules := by
  induction p generalizing cs ts rest with
  | token t =>
    obtain ⟨n, -, rfl, -⟩ := takes_token h
    exact ⟨_, [], rfl, rfl, by simp⟩
  | rule r =>
    obtain ⟨n, us, rfl, -⟩ := takes_rule h
    refine ⟨_, [], rfl, rfl, ?_⟩
    rintro _ _ _ _ ⟨⟩
    simpa [hasEdge] using hp
  | both p q ihp ihq =>
    obtain ⟨us, vs, mid, rfl, htp, htq⟩ := takes_both h
    simp only [hasEdge, Bool.or_eq_true, Bool.and_eq_true] at hp
    rcases hp with hp | ⟨hahead, hq⟩
    · obtain ⟨t, us, rfl, hsource, hrule⟩ := ihp hp htp
      exact ⟨t, us ++ vs, rfl, hsource, hrule⟩
    · unfold looksAhead at hahead
      split at hahead
      · obtain ⟨rfl, rfl⟩ := takes_absent htp
        exact ihq hq htq
      · cases hahead
  | either p q ihp ihq =>
    rw [hasEdge, Bool.and_eq_true] at hp
    rcases takes_either h with h | h
    · exact ihp hp.1 h
    · exact ihq hp.2 h
  | text | drop | empty | optional | many | absent => cases hp

/-! ## Where an expression begins -/

/-- The part stands for one node, which begins there. -/
def BeginsAt (p : Part) (loc : Position) : Prop :=
  ∃ n, p.nodes = [n] ∧ n.loc = loc

variable {loc : Position} {m : Node} {p : Part} {ps : List Part} {r : Rule}

theorem exists_node_of_makes (hr : r ∈ edgeRules) (h : Makes r p) : ∃ n, p.nodes = [n] := by
  simp only [edgeRules, List.mem_cons, List.not_mem_nil, or_false] at hr
  rcases hr with rfl | hr
  · obtain ⟨s, loc, rfl⟩ := h
    exact ⟨_, rfl⟩
  · rcases hr with rfl | rfl | rfl | rfl | rfl | rfl | rfl | rfl | rfl | rfl | rfl | rfl | rfl | rfl
      | rfl | rfl | rfl | rfl | rfl | rfl | rfl
    all_goals
      obtain ⟨n, rfl, -⟩ := h
      exact ⟨n, rfl⟩

theorem loc_foldl_apply (ts : List Tail) (n : Node) : (ts.foldl Tail.apply n).loc = n.loc := by
  induction ts generalizing n with
  | nil => rfl
  | cons t ts ih =>
    rw [List.foldl_cons, ih]
    cases t <;> rfl

theorem loc_foldChain (n : Node) (rest : List (BinaryOperator × Node)) :
    (foldChain n rest).loc = n.loc := by
  obtain ⟨t, hoperands, -, -, hfold⟩ := exists_foldChain_eq n rest
  rw [OperatorTree.operands_eq] at hoperands
  rw [hfold, t.loc_node, (List.cons.inj hoperands).1]

theorem loc_operand (h : p.nodes = [m]) : ∀ n ∈ (Part.operand (p :: ps)).nodes, n.loc = m.loc := by
  unfold Part.operand
  split
  · rename_i n qs heq
    obtain ⟨rfl, rfl⟩ := List.cons.inj heq
    obtain ⟨rfl, -⟩ := List.cons.inj h
    exact List.forall_mem_singleton.2 (loc_foldl_apply _ n)
  · simp

theorem loc_binaryExpression (h : p.nodes = [m]) :
    ∀ n ∈ (Part.binaryExpression (p :: ps)).nodes, n.loc = m.loc := by
  unfold Part.binaryExpression
  split
  · rename_i n qs heq
    obtain ⟨rfl, rfl⟩ := List.cons.inj heq
    obtain ⟨rfl, -⟩ := List.cons.inj h
    split
    · exact List.forall_mem_singleton.2 (loc_foldChain n _)
    · simp
  · simp

/-- A rule that continues its first node begins where that one does. -/
theorem loc_of_continues (hr : Manner.of r = .continues) (hne : r ≠ .expression)
    (h : p.nodes = [m]) : ∀ n ∈ (Part.ofRule loc r (p :: ps)).nodes, n.loc = m.loc := by
  cases r <;> cases hr
  case expression => exact absurd rfl hne
  case newCallee | leftHandSideExpression => exact loc_operand h
  case binaryExpression => exact loc_binaryExpression h
  -- the others select the parts by their shape
  all_goals
    simp only [Part.ofRule, Part.propertyName, Part.primaryExpression, Part.wordLiteral,
      Part.postfixExpression, Part.conditionalExpression, Part.assignment, Part.variableDeclarator,
      Part.bindingElement]
    split
    all_goals simp_all
    all_goals rw [← h]; rfl

theorem loc_sequenceOf (h : p.nodes = [m]) (hmakes : Makes .assignmentExpression p) :
    ∀ n ∈ (Part.sequenceOf (p :: ps)).nodes, n.loc = m.loc := by
  obtain ⟨k, rfl, -⟩ := hmakes
  obtain rfl : k = m := List.singleton_inj.1 h
  have hselect : (Part.expression k :: ps).filterMap Part.expression?
      = k :: ps.filterMap Part.expression? := rfl
  unfold Part.sequenceOf
  rw [hselect]
  cases ps.filterMap Part.expression? with
  | nil => exact List.forall_mem_singleton.2 rfl
  | cons => exact List.forall_mem_singleton.2 rfl

/-- A rule that hands a node on is handed nothing else. -/
theorem eq_singleton_of_handed (hr : r ∈ edgeRules) (hmanner : Manner.of r = .handsOn)
    (h : Handed r ps) : ∃ q, ps = [q] := by
  cases r <;> cases hmanner
  case identifier =>
    obtain ⟨s, loc, _, rfl, -, rfl⟩ := h
    exact ⟨_, rfl⟩
  case lhsHead =>
    obtain ⟨q, _, rfl, -, rfl⟩ | ⟨q, _, rfl, -, rfl⟩ := h <;> exact ⟨q, rfl⟩
  case unaryExpression =>
    obtain ⟨q, _, rfl, -, rfl⟩ | ⟨q, _, rfl, -, rfl⟩ | ⟨q, _, rfl, -, rfl⟩ := h <;> exact ⟨q, rfl⟩
  case assignmentExpression =>
    obtain ⟨q, _, rfl, -, rfl⟩ | ⟨q, _, rfl, -, rfl⟩ | ⟨q, _, rfl, -, rfl⟩ | ⟨q, _, rfl, -, rfl⟩ := h
      <;> exact ⟨q, rfl⟩
  all_goals exact absurd hr (by decide)

/-- What the rule makes of a first part that begins where it matches begins there. -/
theorem loc_of_begins (hr : r ∈ edgeRules) (hmanner : Manner.of r ≠ .encloses)
    (hhanded : Handed r (p :: ps)) (h : BeginsAt p loc) :
    ∀ n ∈ (Part.ofRule loc r (p :: ps)).nodes, n.loc = loc := by
  obtain ⟨m, hm, rfl⟩ := h
  have hmanners : ∀ r ∈ edgeRules, Manner.of r = .handsOn ∨ Manner.of r = .encloses
      ∨ Manner.of r = .continues := by decide
  rcases hmanners r hr with hhandsOn | hencloses | hcontinues
  · obtain ⟨q, hq⟩ := eq_singleton_of_handed hr hhandsOn hhanded
    obtain rfl : ps = [] := (List.cons.inj hq).2
    have hsub : (Part.ofRule m.loc r [p]).nodes.Sublist (nodesOf [p]) := nodes_of_handsOn hhandsOn
    rw [nodesOf_cons, hm] at hsub
    intro n hn
    rw [List.mem_singleton.1 (hsub.subset hn)]
  · exact absurd hencloses hmanner
  · by_cases he : r = .expression
    · subst he
      obtain ⟨_, _, ⟨⟩, hmakes, -⟩ := hhanded
      exact loc_sequenceOf hm hmakes
    · exact loc_of_continues hcontinues he hm

theorem beginsAt_token (t : Token) (s : List Char) : BeginsAt (Part.ofToken loc t s) loc :=
  ⟨_, rfl, rfl⟩

/-- **An expression begins where its rule matches.** -/
theorem begins_of_matched (locate : List Char → Position) : ∀ t : Tree, t.Matched →
    ∀ r source n ts, t = .node r source n ts → r ∈ edgeRules →
      BeginsAt (Part.ofTree locate t) (locate source) := by
  refine Tree.induction_trees (fun _ _ _ _ _ _ _ _ he => nomatch he) ?_
  rintro r source n ts ih h _ _ _ _ ⟨⟩ hr
  obtain ⟨m, hm, rfl, -⟩ := h.takes
  have hhanded := handed_of_derives locate (derives_match? hm)
  obtain ⟨d, hd⟩ : ∃ d, (Part.ofRule (locate source) r _).nodes = [d] :=
    exists_node_of_makes hr (makes_ofRule hhanded)
  refine ⟨d, hd, ?_⟩
  have hmem : d ∈ (Part.ofRule (locate source) r (Part.ofTree.ofTrees locate m.trees)).nodes := by
    rw [hd]
    exact List.mem_cons_self
  by_cases hmanner : Manner.of r = .encloses
  · exact (encloses_ofRule hmanner d hmem).loc
  · have hedges : ∀ r ∈ edgeRules, Manner.of r ≠ .encloses → hasEdge r.pattern = true := by decide
    obtain ⟨t, us, hts, rfl, hrule⟩ := exists_edge (hedges r hr hmanner) h.takes
    have hfirst : t ∈ m.trees := hts ▸ List.mem_cons_self
    rw [hts] at hhanded hmem
    refine loc_of_begins hr hmanner hhanded ?_ d hmem
    cases t with
    | leaf tok source k => exact beginsAt_token tok _
    | node q source k vs =>
      exact ih _ hfirst (h.of_mem hfirst) q source k vs rfl (hrule q source k vs rfl)

end LoopBound.Reading
