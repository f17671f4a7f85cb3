import LoopBound.Proofs.Grammar.Cover

/-!
# Arrow functions and other expressions

An arrow function is tried before every other expression. Where its parameters look like the
left-hand side of another expression, the arrow stands right behind that side, and nothing else goes
on there. With this, patterns and expressions that begin at one place and may end an item of a list
are found to end together, whatever the expression is (`agree`).
-/

namespace LoopBound.Grammar

open Pattern LoopBound.Text

variable {cs mid rest rest' : List Char}

/-! ## Parameters -/

/-- How a text with the parameters of an arrow function in front begins. -/
def parameterLeads : List Lead :=
  .mark '(' :: nameLeads

theorem cases_of_arrowParameters (h : (rule .arrowParameters).Ends cs rest) :
    (rule .identifier).Ends cs rest ∨ (rule .parenthesizedParameters).Ends cs rest :=
  (ends_either.1 (ends_rule.1 h)).imp_right And.right

theorem front_of_arrowParameters (h : (rule .arrowParameters).Ends cs rest) :
    Front parameterLeads cs := by
  rcases cases_of_arrowParameters h with hname | hparameters
  · exact (front_of_identifier hname).mono (by decide)
  · obtain ⟨ds, rfl, -⟩ := exists_of_parenthesizedParameters hparameters
    exact (front_mark '(' ds).mono (by decide)

theorem identifier_of_async (h : (keyword .async).Ends cs rest) :
    (rule .identifier).Ends cs rest := by
  obtain ⟨l, hl, hbegins⟩ := front_of_keyword h
  obtain rfl := List.mem_singleton.1 hl
  obtain ⟨rest', hname⟩ := exists_of_ask hbegins (p := rule .identifier) (by decide)
  rwa [(name_of_keyword h).unique (name_of_identifier hname)]

/-- The parameters of an arrow function stand in front, or behind the word in front. -/
theorem cases_of_arrowFunction (h : (rule .arrowFunction).Ends cs rest) :
    ∃ ds behind body, (ds = cs ∨ ∃ mid, (rule .identifier).Ends cs mid ∧ ds = skip mid)
      ∧ (rule .arrowParameters).Ends ds behind ∧ skip behind = '=' :: '>' :: body := by
  obtain ⟨ds, hasync, h⟩ := ends_both.1 (ends_rule.1 h)
  obtain ⟨behind, hparameters, h⟩ := ends_both.1 h
  obtain ⟨_, hline, h⟩ := ends_both.1 h
  obtain ⟨body, harrow, -⟩ := ends_both.1 h
  have harrow : _ = '=' :: '>' :: body := ends_text.1 harrow
  obtain rfl := ends_sameLine.1 hline
  have hskip : Front [.mark '='] (skipLine behind) := by
    rw [skipLine, harrow]
    exact front_mark _ _
  refine ⟨ds, behind, body, ?_, hparameters, (hskip.skip_eq_skipLine (by decide)).trans harrow⟩
  rcases ends_optional.1 hasync with hover | ⟨-, rfl⟩
  · obtain ⟨mid, hword, hline⟩ := ends_both.1 (ends_rule.1 hover)
    obtain rfl := ends_sameLine.1 hline
    have hfront := front_of_arrowParameters hparameters
    exact .inr ⟨mid, identifier_of_async hword, (hfront.skip_eq_skipLine (by decide)).symm⟩
  · exact .inl rfl

theorem front_of_arrowFunction (h : (rule .arrowFunction).Ends cs rest) :
    Front parameterLeads cs := by
  obtain ⟨ds, behind, body, rfl | ⟨mid, hname, -⟩, hparameters, -⟩ := cases_of_arrowFunction h
  · exact front_of_arrowParameters hparameters
  · exact (front_of_identifier hname).mono (by decide)

/-! ## Targets and expressions -/

theorem bindingTarget_of_identifier (h : (rule .identifier).Ends cs rest) :
    (rule .bindingTarget).Ends cs rest := by
  have hfront := front_of_identifier h
  refine ends_rule.2 (ends_either.2 (.inr ⟨hfront.refuses (by decide), ?_⟩))
  exact ends_either.2 (.inr ⟨hfront.refuses (by decide), h⟩)

/-- An arrow function that begins with a binding target has nothing else in front of its arrow, or
parameters behind that target. -/
theorem cases_of_arrow_at_target (htarget : (rule .bindingTarget).Ends cs mid)
    (h : (rule .arrowFunction).Ends cs rest) :
    (∃ body, skip mid = '=' :: '>' :: body)
      ∨ ∃ behind, (rule .arrowParameters).Ends (skip mid) behind := by
  obtain ⟨ds, behind, body, rfl | ⟨mid', hname, rfl⟩, hparameters, harrow⟩ :=
    cases_of_arrowFunction h
  · left
    rcases cases_of_arrowParameters hparameters with hname | hparameters
    · rw [htarget.unique (bindingTarget_of_identifier hname)]
      exact ⟨body, harrow⟩
    · exact (front_of_bindingTarget htarget).absurd hparameters (by decide)
  · right
    rw [htarget.unique (bindingTarget_of_identifier hname)]
    exact ⟨behind, hparameters⟩

/-- An arrow does not begin the default of a target. -/
theorem not_arrow_behind_target
    (hdefault : initializer.Ends mid rest ∨ initializer.Refuses mid ∧ mid = rest)
    (hfront : Front listMarks (skip rest)) {body : List Char} :
    skip mid ≠ '=' :: '>' :: body := by
  intro harrow
  rcases hdefault with h | ⟨-, rfl⟩
  · obtain ⟨ds, hequals, -, hvalue⟩ := ends_initializer.1 h
    rw [harrow] at hequals
    obtain rfl := (List.cons.inj hequals).2
    have hmark := front_mark '>' body
    rw [hmark.skip_eq (by decide)] at hvalue
    exact hmark.absurd hvalue (by decide)
  · exact absurd harrow (hfront.ne_cons (by decide))

/-- A default is what an assignment assigns. -/
theorem ends_assignmentOperator_of_initializer (h : initializer.Ends mid rest) :
    ∃ ds, (token .assignmentOperator).Ends (skip mid) ds
      ∧ (rule .assignmentExpression).Ends (skip ds) rest := by
  obtain ⟨ds, hequals, hno, hvalue⟩ := ends_initializer.1 h
  refine ⟨ds, ?_, hvalue⟩
  rw [hequals, ends_assignmentOperator_equals]
  refine ⟨rfl, ?_⟩
  cases ds with
  | nil => rfl
  | cons c ds =>
    rw [startsIn, Bool.eq_false_iff, ne_eq, Bool.or_eq_true, beq_iff_eq, beq_iff_eq]
    rintro (rfl | rfl)
    · exact hno.not_ends ((ends_word rfl).2 rfl)
    · have hmark := front_mark '>' ds
      rw [hmark.skip_eq (by decide)] at hvalue
      exact hmark.absurd hvalue (by decide)

/-- An expression that begins like a target, or with a parenthesis, begins with a left-hand side. -/
theorem exists_side_of_conditional (hfront : Front (.mark '(' :: targetLeads) cs)
    (h : (rule .conditionalExpression).Ends cs rest) :
    ∃ mid, (rule .leftHandSideExpression).Ends cs mid := by
  obtain ⟨_, hchain, -⟩ := ends_conditionalExpression.1 h
  obtain ⟨_, hunary, -⟩ := ends_binaryExpression.1 hchain
  have hoperand : (rule .postfixExpression).Ends cs _ :=
    ends_of_firstOf (ends_rule.1 hunary) hfront (by decide)
  obtain ⟨mid, hside, -⟩ := ends_both.1 (ends_rule.1 hoperand)
  exact ⟨mid, hside⟩

/-- **Patterns and expressions end together** where an item of a list may end. -/
theorem agree (n : Nat) : Agree n := by
  induction n with
  | zero => exact fun cs hlen => absurd hlen (Nat.not_lt_zero _)
  | succ n ih =>
    intro cs hlen rest rest' helement hvalue hfront
    obtain ⟨mid, htarget, hdefault⟩ := ends_bindingElement.1 helement
    have hmarks := front_behind_target hdefault hfront
    have hleads := front_of_bindingTarget htarget
    -- Whatever the expression is, it begins with a left-hand side, and that is the target.
    have hsame {side : List Char} (hside : (rule .leftHandSideExpression).Ends cs side) :
        side = mid := ih.target (Nat.le_of_lt_succ hlen) htarget hside hmarks
    rcases ends_either.1 (ends_rule.1 hvalue) with harrow | ⟨-, hvalue⟩
    · rcases cases_of_arrow_at_target htarget harrow with ⟨body, harrow⟩ | ⟨behind, hparameters⟩
      · exact absurd harrow (not_arrow_behind_target hdefault hfront)
      · exact hmarks.absurd hparameters (by decide)
    rcases ends_either.1 hvalue with hyield | ⟨-, hvalue⟩
    · exact hleads.absurd hyield (by decide)
    rcases ends_either.1 hvalue with hassignment | ⟨hno, hconditional⟩
    · obtain ⟨side, ds, hside, hoperator, hassigned⟩ := ends_assignment.1 hassignment
      obtain rfl := hsame hside
      rcases hdefault with hdefault | ⟨-, rfl⟩
      · -- the default is what is assigned
        obtain ⟨ds', hoperator', hassigned'⟩ := ends_assignmentOperator_of_initializer hdefault
        obtain rfl := hoperator.unique hoperator'
        exact hassigned'.unique hassigned
      · exact hfront.absurd hoperator (by decide)
    · obtain ⟨side, hside⟩ := exists_side_of_conditional (hleads.mono (by decide))
        hconditional
      obtain rfl := hsame hside
      rcases hdefault with hdefault | ⟨-, rfl⟩
      · -- the default would have been an assignment
        obtain ⟨ds, hoperator, hassigned⟩ := ends_assignmentOperator_of_initializer hdefault
        exact (hno.not_ends (ends_assignment.2 ⟨side, ds, hside, hoperator, hassigned⟩)).elim
      · have hstops : Stops side :=
          .of_front hfront (by decide) (by decide) (by decide)
        exact (hstops.eq_of_conditional hside hconditional).symm

/-! ## Arrows behind a left-hand side -/

/-- What stands behind a left-hand side where there is an arrow function: the arrow, or parameters
behind the word in front of them. -/
theorem cases_of_arrow_at_side (hside : (rule .leftHandSideExpression).Ends cs mid)
    (h : (rule .arrowFunction).Ends cs rest) :
    (∃ body, skip mid = '=' :: '>' :: body) ∨ (∃ ds, skip mid = '(' :: ds)
      ∨ ∃ behind body, (rule .identifier).Ends (skip mid) behind
        ∧ skip behind = '=' :: '>' :: body := by
  obtain ⟨head, hhead, htails⟩ := ends_leftHandSideExpression.1 hside
  obtain ⟨ds, behind, body, hcase, hparameters, harrow⟩ := cases_of_arrowFunction h
  have hfront : Front [.mark '='] (skip behind) := harrow ▸ front_mark '=' _
  have hend {tails : List Char} (htails : (many (rule .lhsTail)).Ends behind tails) :
      skip tails = '=' :: '>' :: body := by
    rw [eq_head_of_front hfront (by decide) htails, harrow]
  rcases hcase with rfl | ⟨name, hname, rfl⟩
  · -- without the word the parameters are the head of the side
    have hsame : head = behind := by
      rcases cases_of_arrowParameters hparameters with hname | hparameters
      · exact eq_of_lhsHead hname hfront (by decide) hhead
      · obtain ⟨inner, rfl, hlist⟩ := exists_of_parenthesizedParameters hparameters
        have hmark := front_mark '(' inner
        have hprimary : (rule .primaryExpression).Ends ('(' :: inner) head :=
          ends_of_firstOf (ends_rule.1 hhead) hmark (by decide)
        have hexpression : (rule .parenthesizedExpression).Ends ('(' :: inner) head :=
          ends_of_firstOf (ends_rule.1 hprimary) hmark (by decide)
        obtain ⟨inner', hinner, hlist'⟩ := exists_of_parenthesizedExpression hexpression
        obtain rfl := (List.cons.inj hinner).2
        exact ((agree _).listed (Nat.lt_succ_self _) (by decide) hlist hlist').symm
    rw [hsame] at htails
    exact .inl ⟨body, hend htails⟩
  · -- with it, the word is
    have hleads := front_of_arrowParameters hparameters
    obtain rfl : head = name := eq_of_lhsHead hname hleads (by decide) hhead
    rcases cases_of_arrowParameters hparameters with hparameter | hparameters
    · rw [eq_head_of_front (front_of_identifier hparameter) (by decide) htails]
      exact .inr (.inr ⟨behind, body, hparameter, harrow⟩)
    · obtain ⟨inner, hinner, hlist⟩ := exists_of_parenthesizedParameters hparameters
      have hmark : Front [.mark '('] (skip head) := hinner ▸ front_mark '(' inner
      rcases (ends_many rfl).1 htails with ⟨further, htail, htails⟩ | ⟨-, rfl⟩
      · -- the parameters are the arguments of a call
        have harguments : (rule .arguments).Ends (skip head) further :=
          ends_of_firstOf (ends_layout_both.1 (ends_rule.1 htail)) hmark (by decide)
        obtain ⟨inner', hinner', hlist'⟩ := exists_of_arguments harguments
        rw [hinner] at hinner'
        obtain rfl := (List.cons.inj hinner').2
        rw [← (agree _).listed (Nat.lt_succ_self _) (by decide) hlist hlist'] at htails
        exact .inl ⟨body, hend htails⟩
      · exact .inr (.inl ⟨inner, hinner⟩)

end LoopBound.Grammar
