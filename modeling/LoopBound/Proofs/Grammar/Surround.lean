import LoopBound.Proofs.Grammar.Alike

/-!
# What surrounds a program

Layout that ends a line takes nothing of the text behind it: a comment in it is closed, or goes on
to a line feed in it. So behind the layout there is the same text, whether or not the layout stands
in front of it, and a program is matched alike, for its rule skips layout in front of every
statement and behind the last one. With blanks behind the program this says that what surrounds it
does not matter (`program_surrounded`).
-/

namespace LoopBound.Grammar

open LoopBound.Text Pattern

/-! ## Layout in front of a text -/

/-- The text is layout up to its end, and it ends a line unless it is empty. -/
structure LayoutLines (v : List Char) : Prop where
  whole : layoutLength v = v.length
  ended : v = [] ∨ v.getLast? = some '\n'

variable {v w cs : List Char}

theorem layoutLines_empty : LayoutLines "".toList := ⟨rfl, .inl rfl⟩

theorem skip_eq_nil_iff : skip cs = [] ↔ layoutLength cs = cs.length := by
  have hle := layoutLength_le cs
  rw [skip, List.drop_eq_nil_iff]
  omega

theorem commentTail?_append {n : Nat} (h : commentTail? v = some n) (cs : List Char) :
    commentTail? (v ++ cs) = some n := by
  induction v generalizing n with
  | nil => cases h
  | cons c v ih =>
    rw [List.cons_append, commentTail?_cons]
    rw [commentTail?_cons] at h
    cases v with
    | nil => simp [startsIn, commentTail?] at h
    | cons d v =>
      change (if c == '*' && d == '/' then _ else _) = _ at h
      change (if c == '*' && d == '/' then _ else _) = _
      split at h
      · rename_i hclose
        rw [if_pos hclose]
        exact h
      · rename_i hopen
        obtain ⟨k, hk, rfl⟩ := Option.map_eq_some_iff.1 h
        rw [if_neg hopen, ih hk]
        rfl

/-- A run that stops in a text is not lengthened by what is behind the text. -/
theorem runLength_of_stop {p : Char → Bool} {c : Char} (hc : c ∈ v) (hp : p c = false)
    (cs : List Char) : runLength p (v ++ cs) = runLength p v := by
  induction v with
  | nil => cases hc
  | cons d v ih =>
    simp only [runLength, List.cons_append, List.takeWhile_cons] at ih ⊢
    cases hd : p d with
    | false => rfl
    | true =>
      have hmem : c ∈ v := by
        rcases List.mem_cons.1 hc with rfl | hmem
        · rw [hp] at hd
          cases hd
        · exact hmem
      simp only [if_true, List.length_cons, ih hmem]

/-- A piece of layout in front of a line feed is a piece whatever comes behind that. -/
theorem layoutPiece_append (hpiece : layoutPiece v ≠ 0) (hfeed : '\n' ∈ v) (cs : List Char) :
    layoutPiece (v ++ cs) = layoutPiece v := by
  cases v with
  | nil => cases hfeed
  | cons c v =>
    rw [List.cons_append, layoutPiece_cons, layoutPiece_cons]
    rw [layoutPiece_cons] at hpiece
    cases v with
    | nil =>
      obtain rfl := List.mem_singleton.1 hfeed
      rfl
    | cons d v =>
      change (if c == '/' && d == '/' then 2 + runLength (!isLineEnd ·) (v ++ cs)
        else if c == '/' && d == '*' then ((commentTail? (v ++ cs)).map (2 + ·)).getD 0 else _)
        = if c == '/' && d == '/' then 2 + runLength (!isLineEnd ·) v
        else if c == '/' && d == '*' then ((commentTail? v).map (2 + ·)).getD 0 else _
      change (if c == '/' && d == '/' then 2 + runLength (!isLineEnd ·) v
        else if c == '/' && d == '*' then ((commentTail? v).map (2 + ·)).getD 0 else _) ≠ 0
        at hpiece
      split
      · rename_i hline
        obtain ⟨rfl, rfl⟩ : c = '/' ∧ d = '/' := by simpa using hline
        have hmem : '\n' ∈ v := by simpa using hfeed
        rw [runLength_of_stop hmem rfl]
      · rename_i hline
        rw [if_neg hline] at hpiece
        split
        · rename_i hblock
          rw [if_pos hblock] at hpiece
          cases htail : commentTail? v with
          | none =>
            rw [htail] at hpiece
            exact absurd rfl hpiece
          | some n => rw [commentTail?_append htail]
        · rfl

/-- **Layout that ends a line is skipped by itself.** -/
theorem skip_append (hv : LayoutLines v) (cs : List Char) : skip (v ++ cs) = skip cs := by
  have hall : skip v = [] := skip_eq_nil_iff.2 hv.whole
  have hended := hv.ended
  clear hv
  induction hn : v.length using Nat.strongRecOn generalizing v with
  | ind n ih =>
    subst hn
    rcases hended with rfl | hended
    · rfl
    · have hpiece : layoutPiece v ≠ 0 := by
        intro hzero
        rw [skip_of_layoutPiece hzero] at hall
        rw [hall] at hended
        cases hended
      have hle := layoutPiece_le v
      rw [← skip_drop_layoutPiece, layoutPiece_append hpiece (List.mem_of_getLast? hended),
        List.drop_append_of_le_length hle]
      refine ih _ ?_ ?_ ?_ rfl
      · rw [List.length_drop]
        omega
      · rw [skip_drop_layoutPiece, hall]
      · by_cases hmore : v.length ≤ layoutPiece v
        · exact .inl (List.drop_of_length_le hmore)
        · right
          rw [List.getLast?_drop, if_neg hmore, hended]

/-! ## Matches of the program rule -/

/-- Behind layout the statements of a program are the same, and what is left behind them too. -/
theorem statementList_append (hv : LayoutLines v) (cs : List Char) : ∃ k k' ts,
    Rule.statementList.pattern.match? cs = some ⟨k, ts⟩
      ∧ Rule.statementList.pattern.match? (v ++ cs) = some ⟨k', ts⟩
      ∧ skip ((v ++ cs).drop k') = skip (cs.drop k) := by
  have hround : ∀ ds, (sequence [layout, rule .statement]).match? ds
      = ((rule .statement).match? (skip ds)).map fun m =>
        ⟨layoutLength ds + m.length, m.trees⟩ := fun ds => match?_both_of_some (match?_layout ds)
  have hempty : (sequence [layout, rule .statement]).mayBeEmpty = false := by decide
  have hrounds : Rule.statementList.pattern = many (sequence [layout, rule .statement]) := rfl
  rw [hrounds]
  cases hm : (rule .statement).match? (skip cs) with
  | none =>
    have hstop : ∀ ds, skip ds = skip cs →
        (many (sequence [layout, rule .statement])).match? ds = some ⟨0, []⟩ :=
      fun ds hds => match?_many_of_stop fun m h => by rw [hround, hds, hm] at h; cases h
    exact ⟨0, 0, [], hstop _ rfl, hstop _ (skip_append hv cs), skip_append hv cs⟩
  | some m =>
    have hmore : ∀ ds, skip ds = skip cs → (many (sequence [layout, rule .statement])).match? ds
        = ((many (sequence [layout, rule .statement])).match? ((skip cs).drop m.length)).map
          fun m' => ⟨layoutLength ds + m.length + m'.length, m.trees ++ m'.trees⟩ := by
      intro ds hds
      have hfirst : (sequence [layout, rule .statement]).match? ds
          = some ⟨layoutLength ds + m.length, m.trees⟩ := by rw [hround, hds, hm]; rfl
      rw [match?_many_of_some hfirst (match?_pos hempty hfirst), ← List.drop_drop, ← hds]
      rfl
    have hleft : ∀ ds, skip ds = skip cs → ∀ k,
        ds.drop (layoutLength ds + m.length + k) = ((skip cs).drop m.length).drop k :=
      fun ds hds k => by rw [← List.drop_drop, ← List.drop_drop, ← hds]; rfl
    rw [hmore _ rfl, hmore _ (skip_append hv cs), match?_many]
    refine ⟨_, _, _, rfl, rfl, ?_⟩
    rw [hleft _ rfl, hleft _ (skip_append hv cs)]

/-- The program rule matches the statements and the layout behind them. -/
theorem program_of_statementList {k : Nat} {ts : List Tree}
    (h : Rule.statementList.pattern.match? cs = some ⟨k, ts⟩) : Rule.program.pattern.match? cs
      = some ⟨k + layoutLength (cs.drop k), [.node .statementList cs k ts]⟩ := by
  have hrule : (rule .statementList).match? cs = some ⟨k, [.node .statementList cs k ts]⟩ := by
    rw [match?_rule, h]
    rfl
  have hpattern : Rule.program.pattern = both (rule .statementList) layout := rfl
  rw [hpattern, match?_both_of_some hrule, match?_layout]
  rfl

/-- **A whole program is matched alike** behind layout that ends a line and in front of blanks. -/
theorem program_surrounded (hv : LayoutLines v) (hw : AllBlank w) {m : Matched}
    (hm : Rule.program.pattern.match? cs = some m) (hwhole : m.length = cs.length) :
    ∃ ts, Rule.program.pattern.match? (v ++ (cs ++ w)) = some ⟨(v ++ (cs ++ w)).length, ts⟩
      ∧ List.Forall₂ (Tree.Alike w) m.trees ts := by
  obtain ⟨k', k'', us, hblank, hfront, hleft⟩ := statementList_append hv (cs ++ w)
  have halike := matchAlike_append hw (Rule.advances .statementList) (by decide) cs
  generalize hstatements : Rule.statementList.pattern.match? cs = o at halike
  rw [hblank] at halike
  cases halike with
  | both htrees hrest =>
    rename_i n
    rw [program_of_statementList hstatements, Option.some.injEq] at hm
    subst hm
    have hend : skip (cs.drop n.length) = [] := by
      rw [skip, List.drop_drop]
      exact List.drop_of_length_le (Nat.le_of_eq hwhole.symm)
    have hend' : skip ((v ++ (cs ++ w)).drop k'') = [] := by rw [hleft, hrest.skip_eq_nil hw hend]
    have hle := match?_le hfront
    rw [skip_eq_nil_iff, List.length_drop] at hend'
    refine ⟨[.node .statementList (v ++ (cs ++ w)) k'' us], ?_,
      .cons (.node .statementList (.inr rfl) htrees) .nil⟩
    rw [program_of_statementList hfront, hend', Nat.add_sub_cancel' hle]

end LoopBound.Grammar
