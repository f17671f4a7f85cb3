import LoopBound.Proofs.Grammar.Skips
import LoopBound.Proofs.Grammar.Trailing

/-!
# Two texts read side by side

A text is read beside the same text with blanks behind it. What is left of the two lies beside each
other again: the second is the first with the blanks behind it, as long as the first has not come to
its end, and from there on there are only blanks. Layout keeps to this even where the blanks
lengthen a comment, and so does the end of a statement, although a line may end in the blanks where
before the text did.
-/

namespace LoopBound.Grammar

open LoopBound.Text Pattern

/-- The second text is the first one with the blanks behind it; or the first one has ended, and the
second one has only blanks left. -/
def Beside (w cs ds : List Char) : Prop :=
  ds = cs ++ w ∨ cs = [] ∧ AllBlank ds

variable {w cs ds rest rest' : List Char}

namespace Beside

theorem trails (hw : AllBlank w) (h : Beside w cs ds) : Trails cs ds := by
  rcases h with rfl | ⟨rfl, hds⟩
  · exact .append hw cs
  · exact .blanks hds

theorem allBlank (hw : AllBlank w) (h : Beside w [] ds) : AllBlank ds := by
  rcases h with rfl | ⟨-, hds⟩
  · exact hw
  · exact hds

/-- As much may be taken from both as the first one has. -/
theorem drop (h : Beside w cs ds) {n : Nat} (hn : n ≤ cs.length) :
    Beside w (cs.drop n) (ds.drop n) := by
  rcases h with rfl | ⟨rfl, hds⟩
  · exact .inl (List.drop_append_of_le_length hn)
  · exact .inr ⟨List.drop_nil, hds.drop n⟩

/-- Behind the end of the first text there are only blanks in the second one. -/
theorem drop_all (hw : AllBlank w) (h : Beside w cs ds) {n : Nat} (hn : cs.length ≤ n) :
    AllBlank (ds.drop n) := by
  rcases h with rfl | ⟨rfl, hds⟩
  · rw [List.drop_append, List.drop_of_length_le hn]
    exact hw.drop _
  · exact hds.drop n

/-- Pieces are taken from both alike, where blanks lengthen no piece but one that goes on to the end
of the text. -/
theorem drop_pieces {piece : List Char → Nat} (hle : ∀ cs, piece cs ≤ cs.length)
    (hpiece : ∀ c cs ds, Trails (c :: cs) ds → piece ds = piece (c :: cs)
      ∨ piece (c :: cs) = (c :: cs).length ∧ (c :: cs).length ≤ piece ds)
    (hw : AllBlank w) (h : Beside w cs ds) :
    Beside w (cs.drop (piecesLength piece cs cs)) (ds.drop (piecesLength piece ds ds)) := by
  induction hn : cs.length using Nat.strongRecOn generalizing cs ds with
  | ind n ih =>
    subst hn
    cases cs with
    | nil =>
      rw [List.drop_nil]
      exact .inr ⟨rfl, (h.allBlank hw).drop _⟩
    | cons c cs =>
      rcases hpiece c cs ds (h.trails hw) with hsame | ⟨hall, hmore⟩
      · have hlen := hle (c :: cs)
        cases hn : piece (c :: cs) with
        | zero =>
          rw [drop_piecesLength_of_zero hn, drop_piecesLength_of_zero (hsame.trans hn)]
          exact h
        | succ n =>
          rw [← drop_piecesLength hle, ← drop_piecesLength hle ds, hsame]
          refine ih _ ?_ (h.drop hlen) rfl
          rw [List.length_drop, hn, List.length_cons]
          omega
      · rw [← drop_piecesLength hle, ← drop_piecesLength hle ds]
        refine .inr ⟨?_, ((h.drop_all hw hmore)).drop _⟩
        rw [List.drop_of_length_le (Nat.le_of_eq hall.symm), List.drop_nil]

end Beside

/-! ## Comments -/

theorem commentTail?_cons (c : Char) (cs : List Char) : commentTail? (c :: cs)
    = if c == '*' && startsIn (· == '/') cs then some 2 else (commentTail? cs).map (· + 1) := by
  cases cs with
  | nil => simp [commentTail?, startsIn]
  | cons d cs =>
    by_cases h : c = '*' ∧ d = '/'
    · obtain ⟨rfl, rfl⟩ := h
      rfl
    · rw [commentTail?]
      · simp [startsIn, h]
      · intro _ hc hd
        exact h ⟨hc, (List.cons.inj hd).1⟩

theorem lineCommentTail?_cons (c : Char) (cs : List Char) : lineCommentTail? (c :: cs)
    = if c == '*' && startsIn (· == '/') cs then some 2
      else if isLineEnd c then none else (lineCommentTail? cs).map (· + 1) := by
  cases cs with
  | nil => simp [lineCommentTail?, startsIn]
  | cons d cs =>
    by_cases h : c = '*' ∧ d = '/'
    · obtain ⟨rfl, rfl⟩ := h
      rfl
    · rw [lineCommentTail?]
      · simp [startsIn, h]
      · intro _ hc hd
        exact h ⟨hc, (List.cons.inj hd).1⟩

theorem notBlank_slash : NotBlank (· == '/') := notBlank_beq (by decide)

theorem notBlank_star : NotBlank (· == '*') := notBlank_beq (by decide)

theorem commentTail?_of_blank (h : AllBlank ds) : commentTail? ds = none := by
  induction ds with
  | nil => rfl
  | cons d ds ih =>
    rw [commentTail?_cons, ih fun c hc => h c (List.mem_cons_of_mem d hc)]
    simp [h.ne (show isBlank '*' = false by decide)]

theorem lineCommentTail?_of_blank (h : AllBlank ds) : lineCommentTail? ds = none := by
  induction ds with
  | nil => rfl
  | cons d ds ih =>
    rw [lineCommentTail?_cons, ih fun c hc => h c (List.mem_cons_of_mem d hc)]
    simp [h.ne (show isBlank '*' = false by decide)]

/-- No comment is closed by blanks. -/
theorem Trails.commentTail? (h : Trails cs ds) :
    Grammar.commentTail? ds = Grammar.commentTail? cs := by
  induction h with
  | blanks h => exact commentTail?_of_blank h
  | cons c h ih => rw [commentTail?_cons, commentTail?_cons, h.startsIn notBlank_slash, ih]

theorem Trails.lineCommentTail? (h : Trails cs ds) :
    Grammar.lineCommentTail? ds = Grammar.lineCommentTail? cs := by
  induction h with
  | blanks h => exact lineCommentTail?_of_blank h
  | cons c h ih => rw [lineCommentTail?_cons, lineCommentTail?_cons, h.startsIn notBlank_slash, ih]

/-- Blanks lengthen a run only if it goes on to the end of the text. -/
theorem Trails.runLength_or (h : Trails cs ds) (p : Char → Bool) :
    Grammar.runLength p ds = Grammar.runLength p cs
      ∨ Grammar.runLength p cs = cs.length ∧ cs.length ≤ Grammar.runLength p ds := by
  induction h with
  | blanks => exact .inr ⟨rfl, Nat.zero_le _⟩
  | cons c h ih =>
    simp only [Grammar.runLength, List.takeWhile_cons] at ih ⊢
    split
    · simpa using ih
    · exact .inl rfl

/-! ## Layout -/

theorem layoutPiece_cons (c : Char) (cs : List Char) : layoutPiece (c :: cs)
    = if c == '/' && startsIn (· == '/') cs then 2 + runLength (!isLineEnd ·) (cs.drop 1)
      else if c == '/' && startsIn (· == '*') cs then
        ((commentTail? (cs.drop 1)).map (2 + ·)).getD 0
      else if isBlank c then 1 else 0 := by
  unfold layoutPiece
  split
  · simp_all
  · simp_all [startsIn]
  · simp_all [startsIn]
  · rename_i hline hblock heq
    obtain ⟨rfl, rfl⟩ := List.cons.inj heq
    cases cs with
    | nil => simp [startsIn]
    | cons d cs => by_cases hc : c = '/' <;> simp_all [startsIn]

theorem sameLinePiece_cons (c : Char) (cs : List Char) : sameLinePiece (c :: cs)
    = if c == '/' && startsIn (· == '*') cs then
        ((lineCommentTail? (cs.drop 1)).map (2 + ·)).getD 0
      else if isLineBlank c then 1 else 0 := by
  unfold sameLinePiece
  split
  · simp_all
  · simp_all [startsIn]
  · rename_i hblock heq
    obtain ⟨rfl, rfl⟩ := List.cons.inj heq
    cases cs with
    | nil => simp [startsIn]
    | cons d cs => simp_all [startsIn]

namespace Beside

theorem skip (hw : AllBlank w) (h : Beside w cs ds) :
    Beside w (Grammar.skip cs) (Grammar.skip ds) := by
  refine drop_pieces layoutPiece_le (fun c cs ds h => ?_) hw h
  cases h with
  | cons c h =>
    rw [layoutPiece_cons, layoutPiece_cons, h.startsIn notBlank_slash, h.startsIn notBlank_star,
      (h.drop 1).commentTail?]
    split
    · rename_i hline
      rw [Bool.and_eq_true] at hline
      have hpos := length_pos_of_startsIn hline.2
      rcases (h.drop 1).runLength_or (!isLineEnd ·) with hsame | ⟨hall, hmore⟩
      · exact .inl (by rw [hsame])
      · rw [List.length_drop] at hall hmore
        rw [List.length_cons, hall]
        right
        omega
    · exact .inl rfl

theorem skipLine (hw : AllBlank w) (h : Beside w cs ds) :
    Beside w (Grammar.skipLine cs) (Grammar.skipLine ds) := by
  refine drop_pieces sameLinePiece_le (fun c cs ds h => .inl ?_) hw h
  cases h with
  | cons c h =>
    rw [sameLinePiece_cons, sameLinePiece_cons, h.startsIn notBlank_star,
      (h.drop 1).lineCommentTail?]

end Beside

theorem skip_of_blank (h : AllBlank ds) : skip ds = [] := by
  induction ds with
  | nil => rfl
  | cons d ds ih =>
    have hslash : (d == '/') = false := by simpa using h.ne (show isBlank '/' = false by decide)
    have hpiece : layoutPiece (d :: ds) = 1 := by
      rw [layoutPiece_cons, hslash, h d List.mem_cons_self]
      rfl
    rw [← skip_drop_layoutPiece, hpiece]
    exact ih fun c hc => h c (List.mem_cons_of_mem d hc)

/-- Behind layout both texts end together. -/
theorem Beside.skip_eq_nil (hw : AllBlank w) (h : Beside w cs ds) (hcs : Grammar.skip cs = []) :
    Grammar.skip ds = [] := by
  have hblank : AllBlank (Grammar.skip ds) := (hcs ▸ h.skip hw).allBlank hw
  rw [← skip_skip, skip_of_blank hblank]

/-! ## The end of a statement -/

/-- The pattern matches both texts and leaves texts that lie beside each other, or it matches
neither. -/
def EndsBeside (w : List Char) (p : Pattern) (cs ds : List Char) : Prop :=
  p.Refuses cs ∧ p.Refuses ds ∨ ∃ rest rest', p.Ends cs rest ∧ p.Ends ds rest' ∧ Beside w rest rest'

namespace EndsBeside

variable {p q : Pattern}

theorem either (hp : EndsBeside w p cs ds) (hq : EndsBeside w q cs ds) :
    EndsBeside w (.either p q) cs ds := by
  rcases hp with ⟨hno, hno'⟩ | ⟨rest, rest', hends, hends', hbeside⟩
  · rcases hq with ⟨hnoq, hnoq'⟩ | ⟨rest, rest', hends, hends', hbeside⟩
    · exact .inl ⟨refuses_either.2 ⟨hno, hnoq⟩, refuses_either.2 ⟨hno', hnoq'⟩⟩
    · exact .inr ⟨rest, rest', ends_either.2 (.inr ⟨hno, hends⟩),
        ends_either.2 (.inr ⟨hno', hends'⟩), hbeside⟩
  · exact .inr ⟨rest, rest', ends_either.2 (.inl hends), ends_either.2 (.inl hends'), hbeside⟩

theorem rule {r : Rule} (h : EndsBeside w r.pattern cs ds) : EndsBeside w (.rule r) cs ds := by
  rcases h with ⟨hno, hno'⟩ | ⟨rest, rest', hends, hends', hbeside⟩
  · exact .inl ⟨refuses_rule.2 hno, refuses_rule.2 hno'⟩
  · exact .inr ⟨rest, rest', ends_rule.2 hends, ends_rule.2 hends', hbeside⟩

theorem layout (h : EndsBeside w p (skip cs) (skip ds)) :
    EndsBeside w (.both .layout p) cs ds := by
  rcases h with ⟨hno, hno'⟩ | ⟨rest, rest', hends, hends', hbeside⟩
  · exact .inl ⟨refuses_layout_both.2 hno, refuses_layout_both.2 hno'⟩
  · exact .inr ⟨rest, rest', ends_layout_both.2 hends, ends_layout_both.2 hends', hbeside⟩

theorem absent (h : EndsBeside w p cs ds) (hbeside : Beside w cs ds) :
    EndsBeside w (.absent p) cs ds := by
  rcases h with ⟨hno, hno'⟩ | ⟨rest, rest', hends, hends', -⟩
  · exact .inr ⟨cs, ds, ends_absent.2 ⟨hno, rfl⟩, ends_absent.2 ⟨hno', rfl⟩, hbeside⟩
  · exact .inl ⟨refuses_absent.2 ⟨rest, hends⟩, refuses_absent.2 ⟨rest', hends'⟩⟩

theorem mark {v : List Char} {c : Char} (hv : v = [c]) (hc : isBlank c = false) (hw : AllBlank w)
    (h : Beside w cs ds) : EndsBeside w (.text v) cs ds := by
  subst hv
  by_cases hcs : [c] <+: cs
  · obtain ⟨rest, rfl⟩ := hcs
    rcases h with rfl | ⟨hnil, -⟩
    · exact .inr ⟨rest, rest ++ w, ends_text.2 rfl, ends_text.2 rfl, .inl rfl⟩
    · cases hnil
  · refine .inl ⟨refuses_text.2 hcs, refuses_text.2 fun hds => hcs ?_⟩
    rw [← List.isPrefixOf_iff_prefix] at hds ⊢
    rwa [← (h.trails hw).isPrefixOf (List.forall_mem_singleton.2 hc)]

/-- Behind layout both texts end, or neither does. -/
theorem inputEnd (hw : AllBlank w) (h : Beside w cs ds) :
    EndsBeside w (.rule .inputEnd) cs ds := by
  refine rule (layout (rule ?_))
  have hbeside := h.skip hw
  cases hskip : skip cs with
  | nil =>
    rw [h.skip_eq_nil hw hskip]
    exact .inr ⟨[], [], ends_absent.2 ⟨refuses_token.2 rfl, rfl⟩,
      ends_absent.2 ⟨refuses_token.2 rfl, rfl⟩, .inr ⟨rfl, allBlank_nil⟩⟩
  | cons c rest =>
    rw [hskip] at hbeside
    rcases hbeside with hds | ⟨hnil, -⟩
    · rw [hds]
      exact .inl ⟨refuses_absent.2 ⟨rest, ends_token.2 ⟨1, rfl, rfl⟩⟩,
        refuses_absent.2 ⟨rest ++ w, ends_token.2 ⟨1, rfl, rfl⟩⟩⟩
    · cases hnil

theorem braceEnd (hw : AllBlank w) (h : Beside w cs ds) :
    EndsBeside w (.rule .braceEnd) cs ds := by
  have hskip := h.skip hw
  have hbrace : isBlank '\x7d' = false := by decide
  exact rule (layout (absent (absent (mark rfl hbrace hw hskip) hskip) hskip))

end EndsBeside

/-- The length of a line comment at the front of the text; zero if there is none. -/
def lineComment : List Char → Nat
  | '/' :: '/' :: cs => 2 + runLength (!isLineEnd ·) cs
  | _ => 0

theorem lineBreakLength?_eq (cs : List Char) :
    lineBreakLength? cs = if startsIn isLineEnd (cs.drop (lineComment cs))
      then some (lineComment cs + 1) else none := rfl

theorem lineComment_cons (c : Char) (cs : List Char) : lineComment (c :: cs)
    = if c == '/' && startsIn (· == '/') cs then 2 + runLength (!isLineEnd ·) (cs.drop 1)
      else 0 := by
  unfold lineComment
  split
  · simp_all [startsIn]
  · rename_i hline
    cases cs with
    | nil => simp [startsIn]
    | cons d cs => simp_all [startsIn]

/-- A line comment is layout. -/
theorem layoutPiece_of_lineComment {cs : List Char} (h : lineComment cs ≠ 0) :
    layoutPiece cs = lineComment cs := by
  unfold lineComment at h ⊢
  split at h
  · rfl
  · exact absurd rfl h

theorem lineComment_le (cs : List Char) : lineComment cs ≤ cs.length := by
  by_cases h : lineComment cs = 0
  · rw [h]
    exact Nat.zero_le _
  · rw [← layoutPiece_of_lineComment h]
    exact layoutPiece_le cs

/-- A line comment is lengthened only if it goes on to the end of the text. -/
theorem Trails.lineComment_or {c : Char} (h : Trails cs ds) :
    lineComment (c :: ds) = lineComment (c :: cs)
      ∨ lineComment (c :: cs) = (c :: cs).length ∧ (c :: cs).length ≤ lineComment (c :: ds) := by
  rw [lineComment_cons, lineComment_cons, h.startsIn notBlank_slash]
  split
  · rename_i hline
    rw [Bool.and_eq_true] at hline
    have hpos := length_pos_of_startsIn hline.2
    rcases (h.drop 1).runLength_or (!isLineEnd ·) with hsame | ⟨hall, hmore⟩
    · exact .inl (by rw [hsame])
    · rw [List.length_drop] at hall hmore
      rw [List.length_cons, hall]
      right
      omega
  · exact .inl rfl

/-- A line ends in both texts alike, or the first one has no more than layout and the second one no
more than blanks behind the end of the line. -/
theorem Beside.lineBreakLength?_or (hw : AllBlank w) (h : Beside w cs ds) :
    lineBreakLength? ds = lineBreakLength? cs
      ∨ lineBreakLength? cs = none ∧ Grammar.skip cs = []
        ∧ ∀ n, lineBreakLength? ds = some n → AllBlank (ds.drop n) := by
  cases cs with
  | nil => exact .inr ⟨rfl, rfl, fun n _ => (h.allBlank hw).drop n⟩
  | cons c cs =>
    obtain rfl : ds = c :: (cs ++ w) := by simpa [Beside] using h
    have htrails : Trails cs (cs ++ w) := .append hw cs
    have hle := lineComment_le (c :: cs)
    rw [lineBreakLength?_eq, lineBreakLength?_eq]
    by_cases hlt : lineComment (c :: cs) < (c :: cs).length
    · left
      rcases htrails.lineComment_or (c := c) with hsame | ⟨hall, -⟩
      · have hdrop : (c :: (cs ++ w)).drop (lineComment (c :: cs))
            = (c :: cs).drop (lineComment (c :: cs)) ++ w :=
          List.drop_append_of_le_length hle
        rw [hsame, hdrop]
        cases hrest : (c :: cs).drop (lineComment (c :: cs)) with
        | nil =>
          have hlen := List.drop_eq_nil_iff.1 hrest
          omega
        | cons => rfl
      · omega
    · have hall : lineComment (c :: cs) = (c :: cs).length := by omega
      have hmore : (c :: cs).length ≤ lineComment (c :: (cs ++ w)) := by
        rcases htrails.lineComment_or (c := c) with hsame | ⟨-, hmore⟩
        · omega
        · exact hmore
      have hne : lineComment (c :: cs) ≠ 0 := by
        rw [hall]
        exact Nat.succ_ne_zero _
      refine .inr ⟨?_, ?_, fun n hn => ?_⟩
      · rw [List.drop_of_length_le (Nat.le_of_eq hall.symm)]
        rfl
      · rw [← skip_drop_layoutPiece, layoutPiece_of_lineComment hne,
          List.drop_of_length_le (Nat.le_of_eq hall.symm)]
        rfl
      · simp only [Option.ite_none_right_eq_some, Option.some.injEq] at hn
        exact h.drop_all hw (by omega)

theorem ends_lineBreakEnd {n : Nat} (h : lineBreakLength? (skipLine cs) = some n) :
    (rule .lineBreakEnd).Ends cs ((skipLine cs).drop n) :=
  ends_rule.2 (ends_both.2 ⟨skipLine cs, ends_sameLine.2 rfl,
    ends_drop.2 (ends_token.2 ⟨n, h, rfl⟩)⟩)

theorem refuses_lineBreakEnd (h : lineBreakLength? (skipLine cs) = none) :
    (rule .lineBreakEnd).Refuses cs :=
  refuses_rule.2 (refuses_both.2 (.inr ⟨skipLine cs, ends_sameLine.2 rfl,
    refuses_drop.2 (refuses_token.2 h)⟩))

theorem refuses_braceEnd (h : skip cs = []) : (rule .braceEnd).Refuses cs := by
  refine refuses_rule.2 (refuses_layout_both.2 (refuses_absent.2 ⟨[], ends_absent.2 ⟨?_, h⟩⟩))
  rw [h]
  exact refuses_text.2 (by decide)

theorem ends_inputEnd (h : skip cs = []) : (rule .inputEnd).Ends cs [] := by
  refine ends_rule.2 (ends_layout_both.2 (ends_rule.2 (ends_absent.2 ⟨?_, h⟩)))
  rw [h]
  exact refuses_token.2 rfl

namespace EndsBeside

/-- A line ends, or the text does. -/
theorem lineEnd (hw : AllBlank w) (h : Beside w cs ds) : EndsBeside w
    (.either (.rule .lineBreakEnd) (.either (.rule .braceEnd) (.rule .inputEnd))) cs ds := by
  have hline := h.skipLine hw
  rcases hline.lineBreakLength?_or hw with hsame | ⟨hnone, hskip, hblank⟩
  · cases hbreak : lineBreakLength? (skipLine cs) with
    | none =>
      have hno := refuses_lineBreakEnd hbreak
      have hno' := refuses_lineBreakEnd (hsame.trans hbreak)
      exact either (.inl ⟨hno, hno'⟩) (either (braceEnd hw h) (inputEnd hw h))
    | some n =>
      refine either (.inr ⟨_, _, ends_lineBreakEnd hbreak, ends_lineBreakEnd (hsame.trans hbreak),
        hline.drop (lineBreakLength?_bounds hbreak).2⟩) (either (braceEnd hw h) (inputEnd hw h))
  · rw [skip_skipLine] at hskip
    have hno := refuses_lineBreakEnd hnone
    cases hbreak : lineBreakLength? (skipLine ds) with
    | none =>
      exact either (.inl ⟨hno, refuses_lineBreakEnd hbreak⟩)
        (either (braceEnd hw h) (inputEnd hw h))
    | some n =>
      -- the line ends in the blanks, where before the text did
      refine .inr ⟨[], _, ends_either.2 (.inr ⟨hno, ends_either.2 (.inr ⟨refuses_braceEnd hskip,
        ends_inputEnd hskip⟩)⟩), ends_either.2 (.inl (ends_lineBreakEnd hbreak)), .inr ⟨rfl, ?_⟩⟩
      exact hblank n hbreak

/-- **Where a statement ends in one text it ends in the other.** -/
theorem statementEnd (hw : AllBlank w) (h : Beside w cs ds) :
    EndsBeside w (.rule .statementEnd) cs ds := by
  have hsemicolon : isBlank ';' = false := by decide
  exact rule (either (rule (layout (mark rfl hsemicolon hw (h.skip hw)))) (lineEnd hw h))

end EndsBeside

end LoopBound.Grammar
