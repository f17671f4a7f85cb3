import LoopBound.Proofs.Grammar.Takes

/-!
# What stays on the line

In front of some tokens the grammar takes layout only up to the end of the line: in front of `++` and
`--` behind an operand, of `=>`, and of whatever `async` modifies; and in front of the operand or
label of a statement that is complete without one. Behind such layout the line is still the same.
-/

namespace LoopBound.Grammar

open Pattern

/-- No line ends between the two ends of a text. -/
def OnLine (cs rest : List Char) : Prop :=
  ∃ gap, cs = gap ++ rest ∧ ∀ c ∈ gap, isLineEnd c = false

namespace OnLine

variable {cs mid rest : List Char}

theorem refl (cs : List Char) : OnLine cs cs :=
  ⟨[], rfl, by simp⟩

theorem trans (h : OnLine cs mid) (h' : OnLine mid rest) : OnLine cs rest := by
  obtain ⟨gap, rfl, hgap⟩ := h
  obtain ⟨gap', rfl, hgap'⟩ := h'
  exact ⟨gap ++ gap', (List.append_assoc _ _ _).symm, List.forall_mem_append.2 ⟨hgap, hgap'⟩⟩

theorem append {gap : List Char} (h : ∀ c ∈ gap, isLineEnd c = false) (rest : List Char) :
    OnLine (gap ++ rest) rest :=
  ⟨gap, rfl, h⟩

theorem drop {n : Nat} (h : ∀ c ∈ cs.take n, isLineEnd c = false) : OnLine cs (cs.drop n) :=
  ⟨cs.take n, (List.take_append_drop n cs).symm, h⟩

end OnLine

/-! ## Layout of the line -/

theorem lineCommentTail?_onLine {cs : List Char} {n : Nat} (h : lineCommentTail? cs = some n) :
    ∀ c ∈ cs.take n, isLineEnd c = false := by
  fun_induction lineCommentTail? cs generalizing n with
  | case1 => cases h
  | case2 cs =>
    obtain rfl := Option.some.inj h
    simp [isLineEnd]
  | case3 => cases h
  | case4 c cs _ hend ih =>
    obtain ⟨m, hm, rfl⟩ := Option.map_eq_some_iff.1 h
    rw [List.take_succ_cons, List.forall_mem_cons]
    exact ⟨by simpa using hend, ih hm⟩

theorem sameLinePiece_onLine (cs : List Char) :
    ∀ c ∈ cs.take (sameLinePiece cs), isLineEnd c = false := by
  fun_cases sameLinePiece cs with
  | case1 => simp
  | case2 cs =>
    cases h : lineCommentTail? cs with
    | none => simp
    | some n =>
      rw [Option.map_some, Option.getD_some, Nat.add_comm, List.take_succ_cons, List.take_succ_cons]
      simp only [List.forall_mem_cons]
      exact ⟨by decide, by decide, lineCommentTail?_onLine h⟩
  | case3 c cs _ hblank =>
    rw [List.take_succ_cons, List.take_zero, List.forall_mem_singleton]
    by_contra hend
    simp only [isLineBlank, Bool.or_eq_true, beq_iff_eq] at hblank
    rcases hblank with ((rfl | rfl) | rfl) | rfl <;> exact hend (by decide)
  | case4 => simp

/-- Layout of the line does not end it. -/
theorem onLine_skipLine (cs : List Char) : OnLine cs (skipLine cs) := by
  have hall : ∀ fuel cs : List Char, OnLine cs (cs.drop (piecesLength sameLinePiece fuel cs)) := by
    intro fuel
    induction fuel with
    | nil => exact fun cs => .refl cs
    | cons _ fuel ih =>
      intro cs
      rw [piecesLength]
      split
      · exact .refl cs
      · rename_i n hn
        have hpiece := sameLinePiece_onLine cs
        rw [hn] at hpiece
        rw [← List.drop_drop]
        exact (OnLine.drop hpiece).trans (ih _)
  exact hall cs cs

/-- Neither does a keyword. -/
theorem onLine_keyword (k : Keyword) (rest : List Char) :
    OnLine (k.spelling.toList ++ rest) rest := by
  refine .append ?_ rest
  have hall : Keyword.all.all (fun k => k.spelling.toList.all (! isLineEnd ·)) = true := by
    decide +kernel
  have hmem : k ∈ Keyword.all := by
    cases k <;> decide
  simpa using List.all_eq_true.1 hall k hmem

/-! ## Restricted rules -/

/-- Where the grammar keeps to the line, no line ends. -/
structure NoBreak (t : Tree) : Prop where
  /-- An operand stands alone, or a mark follows it on its line. -/
  mark : ∀ source n ts, t = .node .postfixExpression source n ts →
    ∃ operand, ts = [operand]
      ∨ ∃ mark k j, ts = [operand, .node .postfixMark operand.rest k [.leaf .postfixOperator mark j]]
        ∧ OnLine operand.rest mark
  /-- The head of a function begins with its keyword, or with `async` and the keyword on its line. -/
  head : ∀ source n ts, t = .node .functionHead source n ts →
    (∃ rest, source = "function".toList ++ rest)
      ∨ ∃ k us vs after rest, ts = .node .asyncPrefix source k us :: vs
        ∧ source = "async".toList ++ after ∧ OnLine after ("function".toList ++ rest)
  /-- An arrow function is parameters and a body, perhaps with `async` in front. The parameters stand
  on the line of `async`, and the arrow on the line where the parameters end. -/
  arrow : ∀ source n ts, t = .node .arrowFunction source n ts →
    ∃ mods params body arrow, ts = mods ++ [params, body]
      ∧ (mods = [] ∧ source = params.source
        ∨ ∃ k us after, mods = [.node .asyncPrefix source k us]
          ∧ source = "async".toList ++ after ∧ OnLine after params.source)
      ∧ OnLine params.rest ("=>".toList ++ arrow) ∧ skip arrow = body.source
  /-- A method begins with `async` and goes on, with its star or its name, on the same line. -/
  method : ∀ source n ts, t = .node .asyncMethod source n ts →
    ∃ next us after, ts = next :: us ∧ source = "async".toList ++ after
      ∧ OnLine after next.source

variable {source rest : List Char} {ts : List Tree}

theorem takes_asyncPrefix (h : (rule .asyncPrefix).Takes source ts rest) :
    ∃ k us after, ts = [.node .asyncPrefix source k us] ∧ source = "async".toList ++ after
      ∧ rest = skipLine after := by
  obtain ⟨k, us, rfl, hprefix, -⟩ := takes_rule h
  obtain ⟨after, hasync, hline⟩ := takes_keyword_both hprefix
  exact ⟨k, us, after, rfl, hasync, (takes_sameLine hline).2.symm⟩

theorem takes_postfixExpression (h : Rule.postfixExpression.pattern.Takes source ts rest) :
    ∃ operand, ts = [operand]
      ∨ ∃ mark k j, ts = [operand, .node .postfixMark operand.rest k [.leaf .postfixOperator mark j]]
        ∧ OnLine operand.rest mark := by
  obtain ⟨n, us, vs, rfl, -, hoptional⟩ := takes_rule_both h
  refine ⟨.node .leftHandSideExpression source n us, ?_⟩
  rcases takes_optional hoptional with hmark | ⟨rfl, -⟩
  · obtain ⟨k, ws, rfl, hpattern, -⟩ := takes_rule hmark
    obtain ⟨j, -, rfl, -⟩ := takes_token (takes_sameLine_both hpattern)
    exact .inr ⟨_, k, j, rfl, onLine_skipLine _⟩
  · exact .inl rfl

theorem takes_functionHead (h : Rule.functionHead.pattern.Takes source ts rest) :
    (∃ rest, source = "function".toList ++ rest)
      ∨ ∃ k us vs after rest, ts = .node .asyncPrefix source k us :: vs
        ∧ source = "async".toList ++ after ∧ OnLine after ("function".toList ++ rest) := by
  rcases takes_optional_both h with hword | ⟨us, vs, mid, rfl, hasync, hword⟩
  · obtain ⟨rest, hsource, -⟩ := takes_keyword_both hword
    exact .inl ⟨rest, hsource⟩
  · obtain ⟨k, us, after, rfl, hsource, rfl⟩ := takes_asyncPrefix hasync
    obtain ⟨rest, hskip, -⟩ := takes_keyword_both hword
    exact .inr ⟨k, us, vs, after, rest, rfl, hsource, hskip ▸ onLine_skipLine after⟩

/-- An arrow function behind what may stand in front of its parameters. -/
theorem takes_arrow
    (h : (sequence [rule .arrowParameters, sameLine, word "=>", layout, rule .arrowBody]).Takes
      source ts rest) :
    ∃ params body arrow, ts = [params, body] ∧ source = params.source
      ∧ OnLine params.rest ("=>".toList ++ arrow) ∧ skip arrow = body.source := by
  obtain ⟨n, us, vs, rfl, -, hline⟩ := takes_rule_both h
  obtain ⟨arrow, hskip, hlayout⟩ := takes_word_both (takes_sameLine_both hline)
  obtain ⟨k, ws, rfl, -⟩ := takes_rule (takes_layout_both hlayout)
  exact ⟨_, _, arrow, rfl, rfl, hskip ▸ onLine_skipLine _, rfl⟩

theorem takes_arrowFunction (h : Rule.arrowFunction.pattern.Takes source ts rest) :
    ∃ mods params body arrow, ts = mods ++ [params, body]
      ∧ (mods = [] ∧ source = params.source
        ∨ ∃ k us after, mods = [.node .asyncPrefix source k us]
          ∧ source = "async".toList ++ after ∧ OnLine after params.source)
      ∧ OnLine params.rest ("=>".toList ++ arrow) ∧ skip arrow = body.source := by
  rcases takes_optional_both h with harrow | ⟨us, vs, mid, rfl, hasync, harrow⟩
  · obtain ⟨params, body, arrow, rfl, hsource, hline, hbody⟩ := takes_arrow harrow
    exact ⟨[], params, body, arrow, rfl, .inl ⟨rfl, hsource⟩, hline, hbody⟩
  · obtain ⟨k, us, after, rfl, hsource, rfl⟩ := takes_asyncPrefix hasync
    obtain ⟨params, body, arrow, rfl, hparams, hline, hbody⟩ := takes_arrow harrow
    exact ⟨_, params, body, arrow, rfl,
      .inr ⟨k, us, after, rfl, hsource, hparams ▸ onLine_skipLine after⟩, hline, hbody⟩

theorem takes_asyncMethod (h : Rule.asyncMethod.pattern.Takes source ts rest) :
    ∃ next us after, ts = next :: us ∧ source = "async".toList ++ after
      ∧ OnLine after next.source := by
  obtain ⟨after, hsource, hline⟩ := takes_keyword_both h
  rcases takes_optional_both (takes_sameLine_both hline) with hname | ⟨us, vs, mid, rfl, hstar, -⟩
  · obtain ⟨n, us, vs, rfl, -⟩ := takes_rule_both hname
    exact ⟨_, vs, after, rfl, hsource, onLine_skipLine after⟩
  · obtain ⟨n, us, rfl, -⟩ := takes_rule hstar
    exact ⟨_, vs, after, rfl, hsource, onLine_skipLine after⟩

/-- **No rule breaks the line where it keeps to it.** -/
theorem noBreak_of_matched {t : Tree} (h : t.Matched) : ∀ d ∈ t.subtrees, NoBreak d := by
  intro d hd
  refine ⟨?_, ?_, ?_, ?_⟩
  all_goals
    rintro source n ts rfl
    have htakes := h _ source n ts hd
  · exact takes_postfixExpression htakes
  · exact takes_functionHead htakes
  · exact takes_arrowFunction htakes
  · exact takes_asyncMethod htakes

end LoopBound.Grammar
