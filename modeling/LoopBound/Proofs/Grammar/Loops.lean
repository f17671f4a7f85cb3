import LoopBound.Proofs.Grammar.Arrows
import Mathlib.Data.List.Pairwise

/-!
# Kinds of loops

Four rules match loops that begin with `for`, and they are tried one after another. At one place at
most one of them matches, so their order decides nothing. What they have in common has no bound: a
left-hand side or a pattern, and behind it, where `in` is an operator as well, a whole expression.

The loop with three parts has a semicolon where a loop over items has the end of its header. So it
is enough that an initial part cannot end in front of a semicolon if the text in front of it is also
a binding, `in` or `of`, and items up to the closing parenthesis.
-/

namespace LoopBound.Grammar

open Pattern LoopBound.Text

variable {cs mid rest rest' : List Char}

/-! ## Two expressions at one place -/

/-- What may stand behind an expression of the initial part of a loop. -/
def initMarks : List Lead :=
  [.mark ',', .mark ';']

/-- What stands behind a list of expressions up to a semicolon, at its beginning. -/
theorem front_behind_first {p : Pattern} {ds : List Char} (h : (many (nextItem p)).Ends mid rest)
    (hend : skip rest = ';' :: ds) : Front initMarks (skip mid) := by
  rcases (ends_many rfl).1 h with ⟨_, hnext, -⟩ | ⟨-, rfl⟩
  · obtain ⟨next, hcomma, -⟩ := ends_nextItem.1 hnext
    rw [hcomma]
    exact (front_mark ',' next).mono (by decide)
  · rw [hend]
    exact (front_mark ';' ds).mono (by decide)

/-- **An expression is no longer than the conditional expression at its place** if a comma or a
semicolon stands behind the latter. -/
theorem eq_of_conditional_of_front (h : (rule .assignmentExpression).Ends cs rest)
    (hconditional : (rule .conditionalExpression).Ends cs rest')
    (hfront : Front initMarks (skip rest')) : rest = rest' := by
  rcases ends_either.1 (ends_rule.1 h) with harrow | ⟨-, h⟩
  · -- In front of the arrow the conditional expression is a left-hand side alone, and what stands
    -- behind that is neither a comma nor a semicolon.
    obtain ⟨side, hside⟩ :=
      exists_side_of_conditional ((front_of_arrowFunction harrow).mono (by decide)) hconditional
    obtain ⟨body, hbehind⟩ | ⟨ds, hbehind⟩ | ⟨behind, body, hbehind, -⟩ :=
      cases_of_arrow_at_side hside harrow
    · rw [(Stops.of_arrow hbehind).eq_of_conditional hside hconditional] at hfront
      exact absurd hbehind (hfront.ne_cons (by decide))
    · have hmark : Front [.mark '('] (skip side) := hbehind ▸ front_mark '(' ds
      have hstops : Stops side :=
        .of_front hmark (by decide) (by decide) (by decide)
      rw [hstops.eq_of_conditional hside hconditional] at hfront
      exact absurd hbehind (hfront.ne_cons (by decide))
    · have hnames := front_of_identifier hbehind
      have hstops : Stops side :=
        .of_front hnames (by decide) (by decide) (by decide)
      rw [hstops.eq_of_conditional hside hconditional] at hfront
      exact hfront.absurd hbehind (by decide)
  rcases ends_either.1 h with hyield | ⟨-, h⟩
  · obtain ⟨_, hword, -⟩ := ends_both.1 (ends_rule.1 hyield)
    exact (front_of_keyword hword).absurd hconditional (by decide)
  rcases ends_either.1 h with hassignment | ⟨-, h⟩
  · obtain ⟨side, ds, hside, hoperator, -⟩ := ends_assignment.1 hassignment
    rw [(Stops.of_assignment hoperator).eq_of_conditional hside hconditional] at hfront
    exact hfront.absurd hoperator (by decide)
  · exact h.unique hconditional

/-! ## Items -/

/-- Behind the binding of a loop over items: the word, the items, and the closing parenthesis. -/
def HasItems (join : Keyword) (items : Rule) (cs : List Char) : Prop :=
  ∃ after last ds, (keyword join).Ends (skip cs) after ∧ (rule items).Ends (skip after) last
    ∧ skip last = ')' :: ds

/-- Behind the binding of either loop over items. -/
def IsOverItems (cs : List Char) : Prop :=
  HasItems .in .expression cs ∨ HasItems .of .assignmentExpression cs

/-- How a text behind the binding of a loop over items begins. -/
def joinLeads : List Lead :=
  [.word "in", .word "of"]

theorem IsOverItems.front (h : IsOverItems cs) : Front joinLeads (skip cs) := by
  obtain ⟨_, _, _, hword, -⟩ | ⟨_, _, _, hword, -⟩ := h
  · exact (front_of_keyword hword).mono (by decide)
  · exact (front_of_keyword hword).mono (by decide)

/-- Where the word `in` stands, it is the operator. -/
theorem eq_of_in (hword : (keyword .in).Ends cs mid) (h : (token .binaryOperator).Ends cs rest) :
    rest = mid := by
  have hcheck : binarySpellings.all (fun s => s.text.head?.any (· != 'i')
      || (s.text == ['i', 'n'] || s.text == "instanceof".toList)) = true := by
    decide
  obtain ⟨rfl, hedge⟩ := ends_keyword.1 hword
  obtain ⟨n, hn, rfl⟩ := ends_token.1 h
  obtain ⟨s, hs, hfront, rfl, -⟩ := firstSpelling?_eq_some hn
  have hcase := List.all_eq_true.1 hcheck s hs
  rw [Bool.or_eq_true, Bool.or_eq_true, beq_iff_eq, beq_iff_eq] at hcase
  rcases hcase.resolve_left fun hhead => not_prefix_of_head hhead hfront with htext | htext
  · rw [htext]
    rfl
  · -- the longer operator has a name going on behind the word
    rw [htext] at hfront
    obtain ⟨tail, htail⟩ := hfront
    have hbehind : "stanceof".toList ++ tail = mid :=
      List.append_cancel_left (show "in".toList ++ ("stanceof".toList ++ tail) = _ from htail)
    rw [← hbehind] at hedge
    exact absurd (show (!isNamePart 's') = true from hedge) (by decide)

/-- The operand behind the word `in` begins a shorter expression with the same end. -/
theorem cases_of_conditional_in {after : List Char}
    (hside : (rule .leftHandSideExpression).Ends cs mid)
    (hword : (keyword .in).Ends (skip mid) after)
    (h : (rule .conditionalExpression).Ends cs rest) :
    rest = mid ∨ (rule .conditionalExpression).Ends (skip after) rest := by
  have hfront := front_of_keyword hword
  obtain ⟨chain, hchain, hchoice⟩ := ends_conditionalExpression.1 h
  obtain ⟨_, hunary, hoperands⟩ := ends_binaryExpression.1 hchain
  obtain rfl := eq_of_unary (hfront.refuses (by decide)) hside hunary
  rcases (ends_many rfl).1 hoperands with ⟨operand, hnext, hoperands⟩ | ⟨-, rfl⟩
  · right
    obtain ⟨_, hoperator, hunary'⟩ := ends_nextOperand.1 hnext
    obtain rfl := eq_of_in hword hoperator
    exact ends_conditionalExpression.2
      ⟨chain, ends_binaryExpression.2 ⟨operand, hunary', hoperands⟩, hchoice⟩
  · left
    rcases ends_optional.1 hchoice with hchoice | ⟨-, rfl⟩
    · have hno : (rule .conditionalTail).Refuses _ :=
        refuses_rule_of_skip rfl (hfront.refuses (by decide))
      exact (hno.not_ends hchoice).elim
    · rfl

/-- Behind a left-hand side with items no arrow follows. -/
theorem not_arrow_of_items (hside : (rule .leftHandSideExpression).Ends cs mid)
    (hitems : IsOverItems mid) : ¬(rule .arrowFunction).Ends cs rest := by
  intro harrow
  obtain ⟨body, hbehind⟩ | ⟨ds, hbehind⟩ | ⟨behind, body, hname, hbehind⟩ :=
    cases_of_arrow_at_side hside harrow
  · exact hitems.front.ne_cons (by decide) hbehind
  · exact hitems.front.ne_cons (by decide) hbehind
  · obtain ⟨_, _, _, hword, -⟩ | ⟨after, _, _, hword, hitem, -⟩ := hitems
    · exact (front_of_keyword hword).absurd hname (by decide)
    · -- a parameter of this name leaves an arrow where the items begin
      obtain rfl := (name_of_keyword hword).unique (name_of_identifier hname)
      rw [hbehind] at hitem
      exact (front_mark '=' _).absurd hitem (by decide)

/-- An expression that begins with a left-hand side with items ends in front of no semicolon. -/
theorem not_semicolon_of_items (hside : (rule .leftHandSideExpression).Ends cs mid)
    (hitems : IsOverItems mid) (h : (rule .expression).Ends cs rest) {ds : List Char} :
    skip rest ≠ ';' :: ds := by
  intro hend
  obtain ⟨first, hfirst, hmore⟩ := ends_both.1 (ends_rule.1 h)
  have hfront : Front initMarks (skip first) := front_behind_first hmore hend
  have hne : first ≠ mid := by
    rintro rfl
    obtain ⟨_, _, _, hword, -⟩ | ⟨_, _, _, hword, -⟩ := hitems
    · exact hfront.absurd hword (by decide)
    · exact hfront.absurd hword (by decide)
  rcases ends_either.1 (ends_rule.1 hfirst) with harrow | ⟨-, hfirst⟩
  · exact not_arrow_of_items hside hitems harrow
  rcases ends_either.1 hfirst with hyield | ⟨-, hfirst⟩
  · obtain ⟨_, hword, -⟩ := ends_both.1 (ends_rule.1 hyield)
    exact (front_of_keyword hword).absurd hside (by decide)
  rcases ends_either.1 hfirst with hassignment | ⟨-, hconditional⟩
  · obtain ⟨_, _, hside', hoperator, -⟩ := ends_assignment.1 hassignment
    obtain rfl := hside.unique hside'
    exact hitems.front.absurd hoperator (by decide)
  obtain ⟨after, last, ds', hword, hitem, hclose⟩ | ⟨_, _, _, hword, -⟩ := hitems
  · rcases cases_of_conditional_in hside hword hconditional with hsame | hconditional
    · exact hne hsame
    · -- the items are what is left of the expression
      obtain ⟨_, hfirst', hmore'⟩ := ends_both.1 (ends_rule.1 hitem)
      obtain rfl := eq_of_conditional_of_front hfirst' hconditional hfront
      rw [hmore.unique hmore', hclose] at hend
      cases hend
  · have hstops : Stops mid :=
      .of_front (front_of_keyword hword) (by decide) (by decide) (by decide)
    exact hne (hstops.eq_of_conditional hside hconditional)

/-! ## The initial part -/

theorem refuses_initializer_of_items (hitems : IsOverItems mid) : initializer.Refuses mid :=
  refuses_layout_both.2 (hitems.front.refuses (by decide))

/-- A declaration whose first target has items behind it ends there. -/
theorem eq_of_variableDeclaration (hdeclaration : (rule .forDeclaration).Ends cs mid)
    (hitems : IsOverItems mid) (h : (rule .variableDeclaration).Ends cs rest) : rest = mid := by
  obtain ⟨_, hkind, hdeclaration⟩ := ends_both.1 (ends_rule.1 hdeclaration)
  have htarget := ends_layout_both.1 hdeclaration
  obtain ⟨_, hkind', h⟩ := ends_both.1 (ends_rule.1 h)
  obtain rfl := hkind.unique hkind'
  obtain ⟨_, hfirst, hmore⟩ := ends_both.1 (ends_layout_both.1 h)
  obtain ⟨_, htarget', hdefault⟩ := ends_both.1 (ends_rule.1 hfirst)
  obtain rfl := htarget.unique htarget'
  rcases ends_optional.1 hdefault with hdefault | ⟨-, rfl⟩
  · exact ((refuses_initializer_of_items hitems).not_ends hdefault).elim
  · have hno : (nextItem (rule .variableDeclarator)).Refuses mid :=
      refuses_layout_both.2 (hitems.front.refuses (by decide))
    exact eq_of_many_of_refuses rfl hno hmore

/-- How a declaration begins. -/
theorem front_of_declarationKind (h : (rule .declarationKind).Ends cs rest) :
    Front [.word "var", .word "let", .word "const"] cs := by
  obtain ⟨p, hp, hends⟩ := exists_of_ends_firstOf (ends_rule.1 h)
  simp only [List.mem_cons, List.not_mem_nil, or_false] at hp
  rcases hp with rfl | rfl | rfl
  · exact (front_of_keyword (ends_drop.2 hends)).mono (by decide)
  · exact (front_of_keyword (ends_drop.2 hends)).mono (by decide)
  · exact (front_of_keyword (ends_drop.2 hends)).mono (by decide)

/-- **No initial part ends in front of a semicolon** where there is a binding with items behind
it. -/
theorem not_semicolon_of_binding (hskip : skip cs = cs) (hbinding : (rule .forBinding).Ends cs mid)
    (hitems : IsOverItems mid) (h : (optional (rule .forInit)).Ends cs rest) {ds : List Char} :
    skip rest ≠ ';' :: ds := by
  intro hend
  rcases ends_optional.1 h with h | ⟨-, rfl⟩
  · rcases ends_either.1 (ends_rule.1 hbinding) with hdeclaration | ⟨-, hside⟩
    · obtain ⟨_, hkind, -⟩ := ends_both.1 (ends_rule.1 hdeclaration)
      rcases ends_either.1 (ends_rule.1 h) with h | ⟨-, h⟩
      · rw [eq_of_variableDeclaration hdeclaration hitems h] at hend
        exact hitems.front.ne_cons (by decide) hend
      · exact (front_of_declarationKind hkind).absurd h (by decide)
    · rcases ends_either.1 (ends_rule.1 h) with h | ⟨-, h⟩
      · obtain ⟨_, hkind, -⟩ := ends_both.1 (ends_rule.1 h)
        exact (front_of_declarationKind hkind).absurd hside (by decide)
      · exact not_semicolon_of_items hside hitems h hend
  · rw [hskip] at hend
    rw [hend] at hbinding
    exact (front_mark ';' ds).absurd hbinding (by decide)

/-! ## Headers -/

theorem exists_of_forItems {join : Keyword} {items : Rule}
    (h : (sequence (keyword .for :: forItems join items)).Ends cs rest) :
    ∃ ds inner mid, (keyword .for).Ends cs ds ∧ skip ds = '(' :: inner
      ∧ (rule .forBinding).Ends (skip inner) mid ∧ HasItems join items mid := by
  obtain ⟨ds, hfor, h⟩ := ends_both.1 h
  obtain ⟨_, hheader, -⟩ := ends_both.1 (ends_layout_both.1 h)
  obtain ⟨inner, last, hopen, hinner, hclose⟩ := (ends_enclosed rfl rfl).1 hheader
  obtain ⟨mid, hbinding, hinner⟩ := ends_both.1 hinner
  obtain ⟨after, hword, hinner⟩ := ends_both.1 (ends_layout_both.1 hinner)
  exact ⟨ds, inner, mid, hfor, hopen, hbinding, after, last, _, hword, ends_layout_both.1 hinner,
    hclose⟩

theorem exists_of_forAwaitOfStatement (h : (rule .forAwaitOfStatement).Ends cs rest) :
    ∃ ds after, (keyword .for).Ends cs ds ∧ (keyword .await).Ends (skip ds) after := by
  obtain ⟨ds, hfor, h⟩ := ends_both.1 (ends_rule.1 h)
  obtain ⟨after, hawait, -⟩ := ends_both.1 (ends_layout_both.1 h)
  exact ⟨ds, after, hfor, hawait⟩

theorem exists_of_forStatement (h : (rule .forStatement).Ends cs rest) :
    ∃ ds inner mid behind, (keyword .for).Ends cs ds ∧ skip ds = '(' :: inner
      ∧ (optional (rule .forInit)).Ends (skip inner) mid ∧ skip mid = ';' :: behind := by
  obtain ⟨ds, hfor, h⟩ := ends_both.1 (ends_rule.1 h)
  obtain ⟨inner, hopen, h⟩ := ends_both.1 (ends_layout_both.1 h)
  obtain ⟨mid, hinit, h⟩ := ends_both.1 (ends_layout_both.1 h)
  obtain ⟨behind, hsemicolon, -⟩ := ends_both.1 (ends_layout_both.1 h)
  exact ⟨ds, inner, mid, behind, hfor, (ends_word rfl).1 hopen, hinit,
    (ends_word rfl).1 hsemicolon⟩

theorem not_await_of_parenthesis {ds inner : List Char}
    (h : (rule .forAwaitOfStatement).Ends cs rest)
    (hfor : (keyword .for).Ends cs ds) : skip ds ≠ '(' :: inner := by
  obtain ⟨_, after, hfor', hawait⟩ := exists_of_forAwaitOfStatement h
  obtain rfl := hfor.unique hfor'
  exact (front_of_keyword hawait).ne_cons (by decide)

/-- A header with a binding and items has no semicolons. -/
theorem not_forStatement_of_items {ds inner : List Char} (hfor : (keyword .for).Ends cs ds)
    (hopen : skip ds = '(' :: inner) (hbinding : (rule .forBinding).Ends (skip inner) mid)
    (hitems : IsOverItems mid) : ¬(rule .forStatement).Ends cs rest := by
  intro h
  obtain ⟨_, _, init, behind, hfor', hopen', hinit, hsemicolon⟩ := exists_of_forStatement h
  obtain rfl := hfor.unique hfor'
  rw [hopen] at hopen'
  obtain rfl := (List.cons.inj hopen').2
  exact not_semicolon_of_binding (skip_skip inner) hbinding hitems hinit hsemicolon

/-- A header with `in` is none with `of`. -/
theorem not_forOfStatement_of_in {ds inner : List Char} (hfor : (keyword .for).Ends cs ds)
    (hopen : skip ds = '(' :: inner) (hbinding : (rule .forBinding).Ends (skip inner) mid)
    (hitems : HasItems .in .expression mid) : ¬(rule .forOfStatement).Ends cs rest := by
  intro h
  obtain ⟨_, _, _, hfor', hopen', hbinding', hitems'⟩ := exists_of_forItems (ends_rule.1 h)
  obtain rfl := hfor.unique hfor'
  rw [hopen] at hopen'
  obtain rfl := (List.cons.inj hopen').2
  obtain rfl := hbinding.unique hbinding'
  obtain ⟨_, _, _, hin, -⟩ := hitems
  obtain ⟨_, _, _, hof, -⟩ := hitems'
  exact (front_of_keyword hin).absurd hof (by decide)

/-! ## One kind of loop -/

/-- At most one of the two patterns matches at the front of the text. -/
def Apart (cs : List Char) (p q : Pattern) : Prop :=
  p.Refuses cs ∨ q.Refuses cs

instance (cs : List Char) : Std.Symm (Apart cs) where
  symm _ _ := Or.symm

theorem apart_of_not_both {p q : Pattern}
    (h : ∀ rest rest', p.Ends cs rest → ¬q.Ends cs rest') : Apart cs p q := by
  rcases refuses_or_ends p cs with hp | ⟨rest, hp⟩
  · exact .inl hp
  · refine .inr ((refuses_or_ends q cs).resolve_right ?_)
    rintro ⟨rest', hq⟩
    exact h rest rest' hp hq

/-- Where patterns are apart, one that matches is the only one. -/
theorem eq_or_refuses_of_apart {q r : Pattern} {ps : List Pattern} (hapart : ps.Pairwise (Apart cs))
    (hq : q ∈ ps) (hr : r ∈ ps) (h : ¬q.Refuses cs) : r = q ∨ r.Refuses cs := by
  by_cases hsame : r = q
  · exact .inl hsame
  · exact .inr ((hapart.forall hr hq hsame).resolve_right h)

/-- The only one of several patterns that matches is found. -/
theorem match?_firstOf_of_mem {p q : Pattern} {ps : List Pattern} {m : Matched}
    (hq : q ∈ p :: ps) (h : q.match? cs = some m)
    (hothers : ∀ r ∈ p :: ps, r = q ∨ r.Refuses cs) : (firstOf p ps).match? cs = some m := by
  induction ps generalizing p with
  | nil =>
    obtain rfl := List.mem_singleton.1 hq
    exact h
  | cons p' ps ih =>
    rcases hothers p List.mem_cons_self with rfl | hp
    · exact match?_either_of_some h
    · rw [firstOf, match?_either_of_none hp]
      refine ih ?_ fun r hr => hothers r (List.mem_cons_of_mem p hr)
      rcases List.mem_cons.1 hq with rfl | hq
      · rw [Refuses, h] at hp
        cases hp
      · exact hq

/-- The only one that matches is found among patterns of which the front of the text refuses all
others. -/
theorem match?_firstOf_of_front {p q : Pattern} {ps allowed : List Pattern} {ls : List Lead}
    {m : Matched} (hfront : Front ls cs) (hq : q ∈ allowed) (h : q.match? cs = some m)
    (hothers : ∀ r ∈ allowed, r = q ∨ r.Refuses cs) (hsub : allowed ⊆ p :: ps)
    (hask : (p :: ps).all (fun r => r ∈ allowed || ls.all fun l => r.ask l = .refuses) = true) :
    (firstOf p ps).match? cs = some m := by
  refine match?_firstOf_of_mem (hsub hq) h fun r hr => ?_
  have hcase := List.all_eq_true.1 hask r hr
  rw [Bool.or_eq_true, decide_eq_true_eq] at hcase
  rcases hcase with hallowed | hrefuses
  · exact hothers r hallowed
  · exact .inr (hfront.refuses hrefuses)

theorem match?_firstOf_eq_none {p : Pattern} {ps : List Pattern}
    (h : ∀ q ∈ p :: ps, q.Refuses cs) : (firstOf p ps).match? cs = none := by
  refine (refuses_or_ends _ _).resolve_right ?_
  rintro ⟨rest, hends⟩
  obtain ⟨q, hq, hends⟩ := exists_of_ends_firstOf hends
  exact (h q hq).not_ends hends

/-- **The order of alternatives decides nothing** where they are apart. -/
theorem match?_firstOf_perm {p q : Pattern} {ps qs : List Pattern}
    (hperm : (p :: ps).Perm (q :: qs)) (hapart : (q :: qs).Pairwise (Apart cs)) :
    (firstOf p ps).match? cs = (firstOf q qs).match? cs := by
  by_cases hnone : ∀ r ∈ q :: qs, r.Refuses cs
  · rw [match?_firstOf_eq_none hnone,
      match?_firstOf_eq_none fun r hr => hnone r (hperm.mem_iff.1 hr)]
  · push Not at hnone
    obtain ⟨r, hr, hmatch⟩ := hnone
    obtain ⟨m, hm⟩ := Option.ne_none_iff_exists'.1 hmatch
    have hothers : ∀ r' ∈ q :: qs, r' = r ∨ r'.Refuses cs :=
      fun r' hr' => eq_or_refuses_of_apart hapart hr hr' hmatch
    rw [match?_firstOf_of_mem hr hm hothers, match?_firstOf_of_mem (hperm.mem_iff.2 hr) hm
      fun r' hr' => hothers r' (hperm.mem_iff.1 hr')]

/-- The loops that begin with `for`, in the order in which they are tried. -/
def loopRules : List Rule :=
  [.forAwaitOfStatement, .forInStatement, .forOfStatement, .forStatement]

/-- No two of the loops match at the front of one text. -/
theorem loopRules_apart (cs : List Char) : (loopRules.map rule).Pairwise (Apart cs) := by
  have hawaitIn : Apart cs (rule .forAwaitOfStatement) (rule .forInStatement) :=
    apart_of_not_both fun _ _ hawait h => by
      obtain ⟨_, _, _, hfor, hopen, -⟩ := exists_of_forItems (ends_rule.1 h)
      exact not_await_of_parenthesis hawait hfor hopen
  have hawaitOf : Apart cs (rule .forAwaitOfStatement) (rule .forOfStatement) :=
    apart_of_not_both fun _ _ hawait h => by
      obtain ⟨_, _, _, hfor, hopen, -⟩ := exists_of_forItems (ends_rule.1 h)
      exact not_await_of_parenthesis hawait hfor hopen
  have hawaitFor : Apart cs (rule .forAwaitOfStatement) (rule .forStatement) :=
    apart_of_not_both fun _ _ hawait h => by
      obtain ⟨_, _, _, _, hfor, hopen, -⟩ := exists_of_forStatement h
      exact not_await_of_parenthesis hawait hfor hopen
  have hinOf : Apart cs (rule .forInStatement) (rule .forOfStatement) :=
    apart_of_not_both fun _ _ hin h => by
      obtain ⟨_, _, _, hfor, hopen, hbinding, hitems⟩ := exists_of_forItems (ends_rule.1 hin)
      exact not_forOfStatement_of_in hfor hopen hbinding hitems h
  have hinFor : Apart cs (rule .forInStatement) (rule .forStatement) :=
    apart_of_not_both fun _ _ hin h => by
      obtain ⟨_, _, _, hfor, hopen, hbinding, hitems⟩ := exists_of_forItems (ends_rule.1 hin)
      exact not_forStatement_of_items hfor hopen hbinding (.inl hitems) h
  have hofFor : Apart cs (rule .forOfStatement) (rule .forStatement) :=
    apart_of_not_both fun _ _ hof h => by
      obtain ⟨_, _, _, hfor, hopen, hbinding, hitems⟩ := exists_of_forItems (ends_rule.1 hof)
      exact not_forStatement_of_items hfor hopen hbinding (.inr hitems) h
  simp [loopRules, hawaitIn, hawaitOf, hawaitFor, hinOf, hinFor, hofFor]

theorem front_of_loop {r : Rule} (hr : r ∈ loopRules) (h : (rule r).Ends cs rest) :
    Front [.word "for"] cs := by
  simp only [loopRules, List.mem_cons, List.not_mem_nil, or_false] at hr
  rcases hr with rfl | rfl | rfl | rfl <;>
    exact front_of_keyword (ends_both.1 (ends_rule.1 h)).choose_spec.1

/-- A loop is the statement where it stands. -/
theorem match?_statement_of_loop {r : Rule} (hr : r ∈ loopRules) {m : Matched}
    (h : (rule r).match? cs = some m) :
    (rule .statement).match? cs = some ⟨m.length, [.node .statement cs m.length m.trees]⟩ := by
  have hfront := front_of_loop hr ⟨m, h, rfl⟩
  have hmem : rule r ∈ loopRules.map rule := List.mem_map_of_mem hr
  have hothers : ∀ p ∈ loopRules.map rule, p = rule r ∨ p.Refuses cs := fun p hp =>
    eq_or_refuses_of_apart (loopRules_apart cs) hmem hp (Ends.not_refuses ⟨m, h, rfl⟩)
  rw [match?_rule, Option.map_eq_some_iff]
  exact ⟨m, match?_firstOf_of_front hfront hmem h hothers (by decide) (by decide), rfl⟩

/-- **A loop is of one kind.** At every position of every text at most one of the rules for loops
matches. That loop is the statement there, and it is found in whatever order the rules are tried. -/
theorem loop_kind_unique (text : String) (pos : Nat) :
    (loopRules.filter fun r => ((rule r).match? (text.toList.drop pos)).isSome).length ≤ 1
      ∧ (∀ r ∈ loopRules, ∀ m, (rule r).match? (text.toList.drop pos) = some m →
          (rule .statement).match? (text.toList.drop pos) = some ⟨m.length,
            [.node .statement (text.toList.drop pos) m.length m.trees]⟩)
      ∧ ∀ r rs, (r :: rs).Perm loopRules →
          (firstOf (rule r) (rs.map rule)).match? (text.toList.drop pos)
            = (firstOf (rule .forAwaitOfStatement) [rule .forInStatement, rule .forOfStatement,
                rule .forStatement]).match? (text.toList.drop pos) := by
  generalize text.toList.drop pos = cs
  have hapart := loopRules_apart cs
  refine ⟨?_, fun r hr m => match?_statement_of_loop hr, fun r rs hperm => ?_⟩
  · have hmatching : (loopRules.filter fun r => ((rule r).match? cs).isSome).Pairwise
        fun r r' => Apart cs (rule r) (rule r') := (List.pairwise_map.1 hapart).filter _
    have hall : ∀ r ∈ loopRules.filter fun r => ((rule r).match? cs).isSome,
        ¬(rule r).Refuses cs := by
      intro r hr hno
      have hsome := (List.mem_filter.1 hr).2
      rw [show (rule r).match? cs = none from hno] at hsome
      cases hsome
    -- Two of them in the list would have to be apart.
    match loopRules.filter fun r => ((rule r).match? cs).isSome, hmatching, hall with
    | [], _, _ => exact Nat.zero_le 1
    | [_], _, _ => exact Nat.le_refl 1
    | r :: r' :: rs, hmatching, hall =>
      have hpair := (List.pairwise_cons.1 hmatching).1 r' List.mem_cons_self
      exact (hpair.elim (hall r List.mem_cons_self)
        (hall r' (List.mem_cons_of_mem r List.mem_cons_self))).elim
  · exact match?_firstOf_perm (hperm.map rule) hapart

/-- In a header with names that are words of other rules too, the loop over items is the one. -/
theorem loop_kind_unique_of_names :
    ∃ m, (rule .forOfStatement).match? ("; for (async of of) ;".toList.drop 2) = some m
      ∧ (rule .statement).match? ("; for (async of of) ;".toList.drop 2) = some ⟨m.length,
          [.node .statement ("; for (async of of) ;".toList.drop 2) m.length m.trees]⟩
      ∧ [.forStatement, .forOfStatement, .forInStatement, .forAwaitOfStatement].Perm loopRules
      ∧ (firstOf (rule .forStatement) ([.forOfStatement, .forInStatement,
            .forAwaitOfStatement].map rule)).match? ("; for (async of of) ;".toList.drop 2)
          = (firstOf (rule .forAwaitOfStatement) [rule .forInStatement, rule .forOfStatement,
              rule .forStatement]).match? ("; for (async of of) ;".toList.drop 2) := by
  have hsome : ((rule .forOfStatement).match? ("; for (async of of) ;".toList.drop 2)).isSome
      = true := by
    decide
  obtain ⟨m, hm⟩ := Option.isSome_iff_exists.1 hsome
  obtain ⟨-, hstatement, horder⟩ := loop_kind_unique "; for (async of of) ;" 2
  exact ⟨m, hm, hstatement _ (by decide) m hm, by decide, horder _ _ (by decide)⟩

end LoopBound.Grammar
