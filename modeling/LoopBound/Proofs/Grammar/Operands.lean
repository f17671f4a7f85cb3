import LoopBound.Proofs.Grammar.Skips

/-!
# What a left-hand side is part of

An expression that begins with a left-hand side is that side with an operator behind it, a chain of
operands, a choice between two values, or an arrow function whose parameters look like one. What
stands behind the left-hand side tells which: here it is said when the side is the whole expression,
and what an arrow function looks like from there.
-/

namespace LoopBound.Grammar

open Pattern LoopBound.Text

variable {cs mid rest rest' : List Char}

/-! ## Names -/

/-- How a text with an identifier in front begins. -/
def nameLeads : List Lead :=
  [.plain, .word "async", .word "get", .word "of", .word "set", .word "static"]

theorem front_of_keyword {k : Keyword} (h : (keyword k).Ends cs rest) :
    Front [.word k.spelling] cs := by
  obtain ⟨he, hedge⟩ := ends_keyword.1 h
  exact ⟨_, List.mem_cons_self, isName_keyword k, rest, he, hedge⟩

theorem name_of_keyword {k : Keyword} (h : (keyword k).Ends cs rest) :
    (token .name).Ends cs rest := by
  obtain ⟨rfl, hedge⟩ := ends_keyword.1 h
  refine ends_token.2 ⟨_, nameLength?_append (isName_keyword k) hedge, ?_⟩
  rw [List.drop_left]

theorem name_of_identifier (h : (rule .identifier).Ends cs rest) : (token .name).Ends cs rest := by
  obtain ⟨_, habsent, hname⟩ := ends_both.1 (ends_rule.1 h)
  obtain ⟨-, rfl⟩ := ends_absent.1 habsent
  exact hname

theorem front_of_identifier (h : (rule .identifier).Ends cs rest) : Front nameLeads cs := by
  obtain ⟨_, habsent, hname⟩ := ends_both.1 (ends_rule.1 h)
  obtain ⟨hreserved, rfl⟩ := ends_absent.1 habsent
  obtain ⟨n, hn, -⟩ := ends_token.1 hname
  obtain ⟨x, behind, rfl, -, hx, hedge⟩ := nameLength?_eq_some hn
  have hnot : ∀ w ∈ reservedWords, x ≠ w.toList := by
    rintro w hw rfl
    have hnone := List.findSome?_eq_none_iff.1 (refuses_token.1 hreserved) w hw
    have hsome : wordLength? w (w.toList ++ behind) = some w.toList.length :=
      wordLength?_eq_some.2 ⟨List.prefix_append _ _, rfl, by rwa [List.drop_left]⟩
    rw [hsome] at hnone
    cases hnone
  by_cases hword : ∃ w ∈ ["async", "get", "of", "set", "static"], x = w.toList
  · obtain ⟨w, hw, rfl⟩ := hword
    refine ⟨.word w, List.mem_cons_of_mem _ ?_, hx, behind, rfl, hedge⟩
    simpa using hw
  · refine ⟨.plain, List.mem_cons_self, x, behind, rfl, hx, hedge, fun w hw => ?_⟩
    rcases List.mem_append.1 hw with hw | hw
    · exact hnot w hw
    · exact fun he => hword ⟨w, hw, he⟩

/-! ## Left-hand sides -/

theorem eq_of_many_of_refuses {p : Pattern} (hp : p.mayBeEmpty = false) (h : p.Refuses cs)
    (hmany : (many p).Ends cs rest) : rest = cs := by
  rcases (ends_many hp).1 hmany with ⟨_, hends, -⟩ | ⟨-, rfl⟩
  · exact (h.not_ends hends).elim
  · rfl

theorem ends_leftHandSideExpression : (rule .leftHandSideExpression).Ends cs rest
    ↔ ∃ head, (rule .lhsHead).Ends cs head ∧ (many (rule .lhsTail)).Ends head rest := by
  rw [ends_rule]
  exact ends_both

/-- Where nothing that goes on stands behind its head, a left-hand side is its head. -/
theorem eq_head_of_front {ls : List Lead} {head : List Char} (hfront : Front ls (skip head))
    (hask : ls.all (fun l => (rule .lhsTail).ask l = .refuses) = true)
    (h : (many (rule .lhsTail)).Ends head rest) : rest = head :=
  eq_of_many_of_refuses rfl (refuses_rule_of_skip rfl (hfront.refuses hask)) h

/-- A left-hand side that begins with an identifier begins with a function only if that is
asynchronous. -/
theorem cases_of_lhsHead {head : List Char} (hname : (rule .identifier).Ends cs mid)
    (h : (rule .lhsHead).Ends cs head) :
    head = mid ∨ ∃ behind, (keyword .function).Ends (skipLine mid) behind := by
  have hfront := front_of_identifier hname
  have hprimary : (rule .primaryExpression).Ends cs head :=
    ends_of_firstOf (ends_rule.1 h) hfront (by decide)
  obtain ⟨p, hp, hends⟩ := exists_allowed_of_firstOf
    [rule .functionExpression, rule .identifier] (ends_rule.1 hprimary) hfront
    (by decide)
  simp only [List.mem_cons, List.not_mem_nil, or_false] at hp
  rcases hp with rfl | rfl
  · right
    obtain ⟨_, hhead, -⟩ := ends_both.1 (ends_rule.1 hends)
    obtain ⟨_, hover, hfunction⟩ := ends_both.1 (ends_rule.1 hhead)
    obtain ⟨behind, hfunction, -⟩ := ends_both.1 hfunction
    rcases ends_optional.1 hover with hasync | ⟨-, rfl⟩
    · obtain ⟨_, hasync, hline⟩ := ends_both.1 (ends_rule.1 hasync)
      obtain rfl := (name_of_keyword hasync).unique (name_of_identifier hname)
      rw [← ends_sameLine.1 hline] at hfunction
      exact ⟨behind, hfunction⟩
    · exact hfront.absurd hfunction (by decide)
  · exact .inl (hends.unique hname)

/-- A left-hand side that begins with an identifier begins with it alone, unless the word for a
function may follow. -/
theorem eq_of_lhsHead {ls : List Lead} {head : List Char} (hname : (rule .identifier).Ends cs mid)
    (hfront : Front ls (skip mid))
    (hask : ls.all (fun l => (keyword .function).ask l = .refuses) = true)
    (h : (rule .lhsHead).Ends cs head) : head = mid := by
  rcases cases_of_lhsHead hname h with hsame | ⟨behind, hfunction⟩
  · exact hsame
  · have hword : Front [.word "function"] (skipLine mid) := front_of_keyword hfunction
    rw [hword.skip_eq_skipLine (by decide)] at hfront
    exact hfront.absurd hfunction hask

/-! ## Operators -/

theorem front_of_spelling {spellings : List Spelling} {ls : List Lead} {n : Nat}
    (h : firstSpelling? spellings cs = some n)
    (hls : ∀ s ∈ spellings, ∀ ds, s.behind ds = true → Front ls (s.text ++ ds)) : Front ls cs := by
  obtain ⟨s, hs, hfront, rfl, hbehind⟩ := firstSpelling?_eq_some h
  rw [← List.prefix_iff_eq_append.1 hfront]
  exact hls s hs _ hbehind

/-- How a text with a postfix operator in front begins. -/
theorem front_of_postfixOperator (h : (token .postfixOperator).Ends cs rest) :
    Front [.mark '+', .mark '-'] cs := by
  obtain ⟨n, hn, -⟩ := ends_token.1 h
  refine front_of_spelling hn fun s hs ds _ => ?_
  simp only [postfixSpellings, spellings, List.map_cons, List.map_nil, List.mem_cons,
    List.not_mem_nil, or_false] at hs
  rcases hs with rfl | rfl
  · exact (front_mark '+' _).mono (by decide)
  · exact (front_mark '-' _).mono (by decide)

/-- How a text with a prefix operator in front begins. -/
def prefixLeads : List Lead :=
  [.mark '+', .mark '-', .mark '!', .mark '~', .word "typeof", .word "void", .word "delete"]

theorem front_of_prefixOperator (h : (token .prefixOperator).Ends cs rest) :
    Front prefixLeads cs := by
  obtain ⟨n, hn, -⟩ := ends_token.1 h
  refine front_of_spelling hn fun s hs ds hbehind => ?_
  simp only [prefixSpellings, spellings, List.map_cons, List.map_nil, List.mem_cons,
    List.not_mem_nil, or_false, List.mem_append] at hs
  rcases hs with ((rfl | rfl) | rfl | rfl | rfl) | rfl | rfl | rfl | rfl
  · exact (front_mark '+' _).mono (by decide)
  · exact (front_mark '-' _).mono (by decide)
  · exact ⟨.word "typeof", by decide, by decide, ds, rfl, hbehind⟩
  · exact ⟨.word "void", by decide, by decide, ds, rfl, hbehind⟩
  · exact ⟨.word "delete", by decide, by decide, ds, rfl, hbehind⟩
  · exact (front_mark '!' _).mono (by decide)
  · exact (front_mark '~' _).mono (by decide)
  · exact (front_mark '+' _).mono (by decide)
  · exact (front_mark '-' _).mono (by decide)

/-- Two spellings in front of one text go on one from the other. -/
theorem prefix_of_spellings {ss ts : List Spelling} {n m : Nat}
    (hs : firstSpelling? ss cs = some n) (ht : firstSpelling? ts cs = some m) :
    ∃ s ∈ ss, ∃ t ∈ ts, (s.text <+: t.text ∨ t.text <+: s.text)
      ∧ (s.text <+: cs ∧ n = s.text.length ∧ s.behind (cs.drop n) = true)
      ∧ t.text <+: cs ∧ m = t.text.length ∧ t.behind (cs.drop m) = true := by
  obtain ⟨s, hs, hfront⟩ := firstSpelling?_eq_some hs
  obtain ⟨t, ht, hfront'⟩ := firstSpelling?_eq_some ht
  exact ⟨s, hs, t, ht, List.prefix_or_prefix_of_prefix hfront.1 hfront'.1, hfront, hfront'⟩

/-- Where an assignment operator stands there is no postfix operator. -/
theorem refuses_postfixOperator_of_assignment (h : (token .assignmentOperator).Ends cs rest) :
    (token .postfixOperator).Refuses cs := by
  have hapart : assignmentSpellings.all (fun s => postfixSpellings.all fun t =>
      !s.text.isPrefixOf t.text && !t.text.isPrefixOf s.text) = true := by
    decide
  refine (refuses_or_ends _ _).resolve_right ?_
  rintro ⟨rest', h'⟩
  obtain ⟨n, hn, -⟩ := ends_token.1 h
  obtain ⟨m, hm, -⟩ := ends_token.1 h'
  obtain ⟨s, hs, t, ht, hover, -⟩ := prefix_of_spellings hn hm
  have hno := List.all_eq_true.1 (List.all_eq_true.1 hapart s hs) t ht
  simp only [Bool.and_eq_true, Bool.not_eq_true', Bool.eq_false_iff, ne_eq,
    List.isPrefixOf_iff_prefix] at hno
  rcases hover with hover | hover
  · exact hno.1 hover
  · exact hno.2 hover

/-- No operator between operands is cut off in front of an equals sign. -/
theorem behind_binarySpelling {t : Spelling} (ht : t ∈ binarySpellings) (ds : List Char) :
    t.behind ('=' :: ds) = false := by
  simp only [binarySpellings, spellings, List.mem_append, List.mem_map] at ht
  rcases ht with (((⟨_, -, rfl⟩ | ⟨_, -, rfl⟩) | ⟨_, -, rfl⟩) | ⟨_, -, rfl⟩) | ⟨_, -, rfl⟩ <;>
    simp [startsIn]

/-- A single equals sign assigns where it begins neither an equality nor an arrow. -/
theorem behind_equals {s : Spelling} (hs : s ∈ assignmentSpellings) (htext : s.text = ['='])
    (ds : List Char) : s.behind ds = !startsIn (fun c => c == '=' || c == '>') ds := by
  rcases List.mem_append.1 hs with hs | hs
  · obtain ⟨t, ht, rfl⟩ := List.mem_map.1 hs
    have hother : [">>>=", "<<=", ">>=", "**=", "&&=", "||=", "??=", "-=", "+=", "*=", "/=", "%=",
        "&=", "|=", "^="].all (fun t => t.toList != ['=']) = true := by
      decide
    exact absurd htext (bne_iff_ne.1 (List.all_eq_true.1 hother t ht))
  · rw [spellings, List.map_singleton, List.mem_singleton] at hs
    rw [hs]

/-- An operator that begins with another character does not stand in front. -/
theorem not_prefix_of_head {text ds : List Char} {c : Char}
    (hhead : text.head?.any (· != c) = true) : ¬text <+: c :: ds :=
  Lead.not_prefix_of_ruledOut (l := .mark c) ⟨ds, rfl⟩ hhead

/-- A longer operator in front determines the second character. -/
theorem exists_of_second {text ds : List Char} {c d : Char} (hsecond : (text.drop 1).head? = some d)
    (h : text <+: c :: ds) : ∃ behind, ds = d :: behind := by
  obtain ⟨tail, htail⟩ := h
  cases text with
  | nil => cases hsecond
  | cons e operator =>
    rw [List.cons_append, List.cons.injEq] at htail
    rw [List.drop_one, List.tail_cons] at hsecond
    obtain ⟨operator', rfl⟩ := List.head?_eq_some_iff.1 hsecond
    exact ⟨operator' ++ tail, htail.2.symm⟩

/-- Where an assignment operator begins with an operator between operands, what is left of it is no
operand. -/
theorem front_of_both_operators (h : (token .assignmentOperator).Ends cs rest)
    (h' : (token .binaryOperator).Ends cs rest') :
    Front [.mark '>', .mark '<', .mark '*', .mark '&', .mark '|'] rest' := by
  have hcheck : assignmentSpellings.all (fun s => binarySpellings.all fun t =>
      (!t.text.isPrefixOf s.text
        || (s.text.drop t.text.length).head?.any (· ∈ ['=', '>', '<', '*', '&', '|']))
      && (!s.text.isPrefixOf t.text || s.text == ['='] && (t.text.drop 1).head? == some '='))
        = true := by
    decide
  obtain ⟨n, hn, -⟩ := ends_token.1 h
  obtain ⟨m, hm, rfl⟩ := ends_token.1 h'
  obtain ⟨s, hs, t, ht, hover, ⟨⟨ds, rfl⟩, rfl, hbehind⟩, ⟨hfront, rfl, hbehind'⟩⟩ :=
    prefix_of_spellings hn hm
  have hcheck := List.all_eq_true.1 (List.all_eq_true.1 hcheck s hs) t ht
  rw [Bool.and_eq_true, Bool.or_eq_true, Bool.or_eq_true, Bool.not_eq_true', Bool.not_eq_true',
    Bool.eq_false_iff, Bool.eq_false_iff, ne_eq, ne_eq, List.isPrefixOf_iff_prefix,
    List.isPrefixOf_iff_prefix] at hcheck
  rcases hover with hover | hover
  · -- only equality goes on from an operator that assigns
    have hequal := hcheck.2.resolve_left (not_not_intro hover)
    rw [Bool.and_eq_true, beq_iff_eq, beq_iff_eq] at hequal
    obtain ⟨hsingle, hsecond⟩ := hequal
    rw [behind_equals hs hsingle, List.drop_left, Bool.not_eq_true'] at hbehind
    rw [hsingle] at hfront
    obtain ⟨_, rfl⟩ := exists_of_second hsecond hfront
    cases hbehind
  · -- the table knows the character behind the shorter operator
    have hmark := hcheck.1.resolve_left (not_not_intro hover)
    obtain ⟨tail, htail⟩ := hover
    rw [← htail, List.drop_left] at hmark
    rw [← htail, List.append_assoc, List.drop_left] at hbehind' ⊢
    cases tail with
    | nil => cases hmark
    | cons c tail =>
      simp only [List.head?_cons, Option.any_some, List.mem_cons, List.not_mem_nil, or_false,
        decide_eq_true_eq] at hmark
      rcases hmark with rfl | hmark
      · rw [List.cons_append, behind_binarySpelling ht] at hbehind'
        cases hbehind'
      · rcases hmark with rfl | rfl | rfl | rfl | rfl <;>
          exact (front_mark _ _).mono (by decide)

/-- The only assignment operator that begins with an equals sign is that sign. -/
theorem of_ends_assignmentOperator_equals {ds : List Char}
    (h : (token .assignmentOperator).Ends ('=' :: ds) rest) :
    rest = ds ∧ startsIn (fun c => c == '=' || c == '>') ds = false := by
  have hfirst : assignmentSpellings.all (fun s => s.text == ['='] || s.text.head?.any (· != '='))
      = true := by
    decide
  obtain ⟨n, hn, rfl⟩ := ends_token.1 h
  obtain ⟨s, hs, hfront, rfl, hbehind⟩ := firstSpelling?_eq_some hn
  have hcase := List.all_eq_true.1 hfirst s hs
  rw [Bool.or_eq_true, beq_iff_eq] at hcase
  have hsingle := hcase.resolve_right fun hhead => not_prefix_of_head hhead hfront
  rw [behind_equals hs hsingle, hsingle, Bool.not_eq_true'] at hbehind
  rw [hsingle]
  exact ⟨rfl, hbehind⟩

theorem ends_assignmentOperator_equals {ds : List Char} :
    (token .assignmentOperator).Ends ('=' :: ds) rest
      ↔ rest = ds ∧ startsIn (fun c => c == '=' || c == '>') ds = false := by
  refine ⟨of_ends_assignmentOperator_equals, ?_⟩
  rintro ⟨rfl, hbehind⟩
  rcases refuses_or_ends (token .assignmentOperator) ('=' :: rest) with hno | ⟨rest', h⟩
  · have hmem : (⟨['='], fun cs => !startsIn (fun c => c == '=' || c == '>') cs⟩ : Spelling)
        ∈ assignmentSpellings := List.mem_append_right _ List.mem_cons_self
    have hnone := List.findSome?_eq_none_iff.1 (refuses_token.1 hno) _ hmem
    simp [spelled?, hbehind] at hnone
  · obtain ⟨rfl, -⟩ := of_ends_assignmentOperator_equals h
    exact h

/-- An assignment operator that begins with a question mark goes on with another. -/
theorem exists_of_question {ds : List Char}
    (h : (token .assignmentOperator).Ends ('?' :: ds) rest) : ∃ behind, ds = '?' :: behind := by
  have hcheck : assignmentSpellings.all (fun s => s.text.head?.any (· != '?')
      || (s.text.drop 1).head? == some '?') = true := by
    decide
  obtain ⟨n, hn, -⟩ := ends_token.1 h
  obtain ⟨s, hs, hfront, -⟩ := firstSpelling?_eq_some hn
  have hcase := List.all_eq_true.1 hcheck s hs
  rw [Bool.or_eq_true, beq_iff_eq] at hcase
  exact exists_of_second (hcase.resolve_left fun hhead => not_prefix_of_head hhead hfront) hfront

/-- No operator between operands begins like an arrow. -/
theorem refuses_binaryOperator_arrow (ds : List Char) :
    (token .binaryOperator).Refuses ('=' :: '>' :: ds) := by
  have hcheck : binarySpellings.all (fun s => s.text.head?.any (· != '=')
      || (s.text.drop 1).head? == some '=') = true := by
    decide
  refine (refuses_or_ends _ _).resolve_right ?_
  rintro ⟨rest, h⟩
  obtain ⟨n, hn, -⟩ := ends_token.1 h
  obtain ⟨s, hs, hfront, -⟩ := firstSpelling?_eq_some hn
  have hcase := List.all_eq_true.1 hcheck s hs
  rw [Bool.or_eq_true, beq_iff_eq] at hcase
  obtain ⟨_, hno⟩ :=
    exists_of_second (hcase.resolve_left fun hhead => not_prefix_of_head hhead hfront) hfront
  cases hno

/-! ## Expressions with operands -/

/-- An operator and the operand behind it. -/
def nextOperand : Pattern :=
  sequence [layout, token .binaryOperator, layout, rule .unaryExpression]

theorem ends_nextOperand : nextOperand.Ends cs rest
    ↔ ∃ ds, (token .binaryOperator).Ends (skip cs) ds
      ∧ (rule .unaryExpression).Ends (skip ds) rest := by
  constructor
  · intro h
    obtain ⟨ds, hoperator, h⟩ := ends_both.1 (ends_layout_both.1 h)
    exact ⟨ds, hoperator, ends_layout_both.1 h⟩
  · rintro ⟨ds, hoperator, h⟩
    exact ends_layout_both.2 (ends_both.2 ⟨ds, hoperator, ends_layout_both.2 h⟩)

theorem ends_binaryExpression : (rule .binaryExpression).Ends cs rest
    ↔ ∃ mid, (rule .unaryExpression).Ends cs mid ∧ (many nextOperand).Ends mid rest := by
  rw [ends_rule]
  exact ends_both

theorem ends_conditionalExpression : (rule .conditionalExpression).Ends cs rest
    ↔ ∃ mid, (rule .binaryExpression).Ends cs mid
      ∧ (optional (rule .conditionalTail)).Ends mid rest := by
  rw [ends_rule]
  exact ends_both

theorem ends_assignment : (rule .assignment).Ends cs rest
    ↔ ∃ mid ds, (rule .leftHandSideExpression).Ends cs mid
      ∧ (token .assignmentOperator).Ends (skip mid) ds
      ∧ (rule .assignmentExpression).Ends (skip ds) rest := by
  rw [ends_rule]
  constructor
  · intro h
    obtain ⟨mid, hside, h⟩ := ends_both.1 h
    obtain ⟨ds, hoperator, h⟩ := ends_both.1 (ends_layout_both.1 h)
    exact ⟨mid, ds, hside, hoperator, ends_layout_both.1 h⟩
  · rintro ⟨mid, ds, hside, hoperator, h⟩
    exact ends_both.2 ⟨mid, hside,
      ends_layout_both.2 (ends_both.2 ⟨ds, hoperator, ends_layout_both.2 h⟩)⟩

/-- A left-hand side is a whole operand. -/
theorem eq_of_unary (hmark : (token .postfixOperator).Refuses (skip mid))
    (hside : (rule .leftHandSideExpression).Ends cs mid)
    (h : (rule .unaryExpression).Ends cs rest) : rest = mid := by
  obtain ⟨p, hp, hends⟩ := exists_of_ends_firstOf (ends_rule.1 h)
  simp only [List.mem_cons, List.not_mem_nil, or_false] at hp
  rcases hp with rfl | rfl | rfl
  · obtain ⟨_, hoperator, -⟩ := ends_both.1 (ends_rule.1 hends)
    exact (front_of_prefixOperator hoperator).absurd hside (by decide)
  · obtain ⟨_, hawait, -⟩ := ends_both.1 (ends_rule.1 hends)
    exact (front_of_keyword hawait).absurd hside (by decide)
  · obtain ⟨_, hside', hoptional⟩ := ends_both.1 (ends_rule.1 hends)
    obtain rfl := hside.unique hside'
    rcases ends_optional.1 hoptional with hpostfix | ⟨-, rfl⟩
    · obtain ⟨_, hline, hoperator⟩ := ends_both.1 (ends_rule.1 hpostfix)
      obtain rfl := ends_sameLine.1 hline
      rw [(front_of_postfixOperator hoperator).skip_eq_skipLine (by decide)] at hmark
      exact (hmark.not_ends hoperator).elim
    · rfl

/-- Nothing behind this text makes the operand in front of it part of a longer expression without an
assignment. -/
structure Stops (cs : List Char) : Prop where
  mark : (token .postfixOperator).Refuses (skip cs)
  operand : nextOperand.Refuses cs
  choice : (rule .conditionalTail).Refuses cs

namespace Stops

theorem of_front {ls : List Lead} (hfront : Front ls (skip cs))
    (hmark : ls.all (fun l => (token .postfixOperator).ask l = .refuses) = true)
    (hoperator : ls.all (fun l => (token .binaryOperator).ask l = .refuses) = true)
    (hchoice : ls.all (fun l => (rule .conditionalTail).ask l = .refuses) = true) : Stops cs where
  mark := hfront.refuses hmark
  operand := refuses_layout_both.2 (refuses_both.2 (.inl (hfront.refuses hoperator)))
  choice := refuses_rule_of_skip rfl (hfront.refuses hchoice)

/-- Where the operand is assigned to. -/
theorem of_assignment (h : (token .assignmentOperator).Ends (skip cs) rest) : Stops cs where
  mark := refuses_postfixOperator_of_assignment h
  operand := by
    refine (refuses_or_ends _ _).resolve_right ?_
    rintro ⟨rest', hoperand⟩
    obtain ⟨ds, hoperator, hunary⟩ := ends_nextOperand.1 hoperand
    have hfront := front_of_both_operators h hoperator
    rw [hfront.skip_eq (by decide)] at hunary
    exact hfront.absurd hunary (by decide)
  choice := by
    refine (refuses_or_ends _ _).resolve_right ?_
    rintro ⟨rest', hchoice⟩
    obtain ⟨ds, hquestion, hchoice⟩ := ends_both.1 (ends_layout_both.1 (ends_rule.1 hchoice))
    have hcs : skip cs = '?' :: ds := (ends_word rfl).1 hquestion
    rw [hcs] at h
    obtain ⟨behind, rfl⟩ := exists_of_question h
    have hfront := front_mark '?' behind
    obtain ⟨_, hvalue, -⟩ := ends_both.1 (ends_layout_both.1 hchoice)
    rw [hfront.skip_eq (by decide)] at hvalue
    exact hfront.absurd hvalue (by decide)

/-- Where the operand is the parameters of an arrow function. -/
theorem of_arrow {ds : List Char} (h : skip cs = '=' :: '>' :: ds) : Stops cs where
  mark := by
    rw [h]
    exact (front_mark '=' _).refuses (by decide)
  operand := by
    refine refuses_layout_both.2 (refuses_both.2 (.inl ?_))
    rw [h]
    exact refuses_binaryOperator_arrow ds
  choice := by
    refine refuses_rule_of_skip rfl ?_
    rw [h]
    exact (front_mark '=' _).refuses (by decide)

/-- A left-hand side is a whole expression. -/
theorem eq_of_conditional (hstops : Stops mid) (hside : (rule .leftHandSideExpression).Ends cs mid)
    (h : (rule .conditionalExpression).Ends cs rest) : rest = mid := by
  obtain ⟨_, hchain, hchoice⟩ := ends_conditionalExpression.1 h
  obtain ⟨_, hunary, hoperands⟩ := ends_binaryExpression.1 hchain
  obtain rfl := eq_of_unary hstops.mark hside hunary
  obtain rfl := eq_of_many_of_refuses rfl hstops.operand hoperands
  rcases ends_optional.1 hchoice with hchoice | ⟨-, rfl⟩
  · exact (hstops.choice.not_ends hchoice).elim
  · rfl

end Stops

end LoopBound.Grammar
