import LoopBound.Proofs.Grammar.Leads

/-!
# Behind the layout

Between two tokens the grammar skips layout, all of it or only what is on the line. `skip` and
`skipLine` are the texts behind it. To skip twice is to skip once, and where something other than
layout follows on the line both come to the same place.

Many rules are ruled out in front of a text by what the text begins with; `Front` collects the ways
in which it may begin.
-/

namespace LoopBound.Grammar

open LoopBound.Text

/-- The text behind all layout. -/
def skip (cs : List Char) : List Char :=
  cs.drop (layoutLength cs)

/-- The text behind the layout of the line. -/
def skipLine (cs : List Char) : List Char :=
  cs.drop (sameLineLength cs)

/-! ## Skipping again -/

theorem length_skip_le (cs : List Char) : (skip cs).length ≤ cs.length :=
  (List.drop_suffix _ _).length_le

theorem skip_of_layoutPiece {cs : List Char} (h : layoutPiece cs = 0) : skip cs = cs :=
  drop_piecesLength_of_zero h

theorem skip_skip (cs : List Char) : skip (skip cs) = skip cs :=
  skip_of_layoutPiece (layoutPiece_drop_layoutLength cs)

/-- A first piece of layout may be skipped by itself. -/
theorem skip_drop_layoutPiece (cs : List Char) : skip (cs.drop (layoutPiece cs)) = skip cs :=
  drop_piecesLength layoutPiece_le cs

theorem commentTail?_of_line {cs : List Char} {n : Nat} (h : lineCommentTail? cs = some n) :
    commentTail? cs = some n := by
  fun_induction lineCommentTail? cs generalizing n with
  | case1 => cases h
  | case2 => exact h
  | case3 => cases h
  | case4 c cs hno _ ih =>
    obtain ⟨m, hm, rfl⟩ := Option.map_eq_some_iff.1 h
    rw [commentTail?, ih hm]
    · rfl
    · exact hno

/-- Layout on the line is layout. -/
theorem layoutPiece_of_sameLinePiece {cs : List Char} (h : sameLinePiece cs ≠ 0) :
    layoutPiece cs = sameLinePiece cs := by
  fun_cases sameLinePiece cs with
  | case1 => rfl
  | case2 cs =>
    rw [sameLinePiece] at h
    cases hline : lineCommentTail? cs with
    | none => exact absurd (by rw [hline]; rfl) h
    | some n => rw [layoutPiece, commentTail?_of_line hline]
  | case3 c cs hcomment hblank =>
    have hlayout := isBlank_of_isLineBlank hblank
    have hslash : c ≠ '/' := by
      rintro rfl
      exact absurd hblank (by decide)
    unfold layoutPiece
    split <;> simp_all
  | case4 c cs hcomment hblank =>
    unfold sameLinePiece at h
    split at h <;> simp_all

theorem skip_skipLine (cs : List Char) : skip (skipLine cs) = skip cs := by
  have hall : ∀ fuel cs : List Char,
      skip (cs.drop (piecesLength sameLinePiece fuel cs)) = skip cs := by
    intro fuel
    induction fuel with
    | nil => exact fun cs => rfl
    | cons _ fuel ih =>
      intro cs
      rw [piecesLength]
      split
      · rw [List.drop_zero]
      · rename_i n hn
        have hpiece : layoutPiece cs = sameLinePiece cs :=
          layoutPiece_of_sameLinePiece (by rw [hn]; exact Nat.succ_ne_zero n)
        rw [← List.drop_drop, ih, ← Nat.succ_eq_add_one, ← hn, ← hpiece, skip_drop_layoutPiece]
  exact hall cs cs

/-! ## Fronts -/

/-- The text begins in one of these ways. -/
def Front (ls : List Lead) (cs : List Char) : Prop :=
  ∃ l ∈ ls, l.Begins cs

variable {ls : List Lead} {cs mid rest : List Char} {p q : Pattern}

theorem front_mark (c : Char) (cs : List Char) : Front [.mark c] (c :: cs) :=
  ⟨_, List.mem_cons_self, cs, rfl⟩

theorem Front.mono {ms : List Lead} (h : Front ls cs) (hsub : ls ⊆ ms) : Front ms cs := by
  obtain ⟨l, hl, hbegins⟩ := h
  exact ⟨l, hsub hl, hbegins⟩

/-- What refuses all of these ways refuses the text. -/
theorem Front.refuses (h : Front ls cs)
    (hask : ls.all (fun l => p.ask l = .refuses) = true) : p.Refuses cs := by
  obtain ⟨l, hl, hbegins⟩ := h
  exact Pattern.refuses_of_ask hbegins (of_decide_eq_true (List.all_eq_true.1 hask l hl))

/-- What matches in front of the text does not refuse it. -/
theorem Front.absurd {α : Prop} (h : Front ls cs) (hends : p.Ends cs rest)
    (hask : ls.all (fun l => p.ask l = .refuses) = true) : α :=
  ((h.refuses hask).not_ends hends).elim

/-- The text does not begin with a character that none of these ways allows. -/
theorem Front.ne_cons {c : Char} {ds : List Char} (h : Front ls cs)
    (hno : ls.all (fun l => !l.may c) = true) : cs ≠ c :: ds := by
  rintro rfl
  obtain ⟨l, hl, hbegins⟩ := h
  obtain ⟨d, _, hd, hmay⟩ := Lead.exists_first hbegins
  have hnot := List.all_eq_true.1 hno l hl
  rw [← (List.cons.inj hd).1] at hmay
  rw [hmay] at hnot
  cases hnot

theorem Front.skip_eq (h : Front ls cs) (htight : ls.all Lead.isTight = true) : skip cs = cs := by
  obtain ⟨l, hl, hbegins⟩ := h
  obtain ⟨c, rest, rfl, hblank, hslash⟩ :=
    Lead.tight_first hbegins (List.all_eq_true.1 htight l hl)
  rw [skip, Lead.layoutLength_of_tight hblank hslash, List.drop_zero]

/-- What follows on the line follows behind all layout. -/
theorem Front.skip_eq_skipLine (h : Front ls (skipLine cs)) (htight : ls.all Lead.isTight = true) :
    skip cs = skipLine cs := by
  rw [← skip_skipLine, h.skip_eq htight]

/-- A text without layout in front is left as it is; any other begins with a blank or a slash. -/
theorem skip_eq_or_front (cs : List Char) : skip cs = cs ∨ Front [.blank, .mark '/'] cs := by
  by_cases hpiece : layoutPiece cs = 0
  · exact .inl (skip_of_layoutPiece hpiece)
  · right
    unfold layoutPiece at hpiece
    split at hpiece
    · exact absurd rfl hpiece
    · exact ⟨.mark '/', by decide, _, rfl⟩
    · exact ⟨.mark '/', by decide, _, rfl⟩
    · rename_i c rest _ _
      split at hpiece
      · rename_i hblank
        exact ⟨.blank, by decide, c, rest, rfl, hblank⟩
      · exact absurd rfl hpiece

/-! ## Patterns behind layout -/

namespace Pattern

theorem ends_word {s : String} {c : Char} (h : s.toList = [c]) :
    (word s).Ends cs rest ↔ cs = c :: rest := by
  rw [word, ends_text, h]
  rfl

theorem ends_skip : layout.Ends cs rest ↔ skip cs = rest :=
  ends_layout

theorem ends_layout_both : (both layout p).Ends cs rest ↔ p.Ends (skip cs) rest := by
  rw [ends_both]
  constructor
  · rintro ⟨mid, hmid, h⟩
    rw [ends_skip.1 hmid]
    exact h
  · exact fun h => ⟨_, ends_skip.2 rfl, h⟩

theorem refuses_layout_both : (both layout p).Refuses cs ↔ p.Refuses (skip cs) := by
  rw [refuses_both]
  constructor
  · rintro (h | ⟨mid, hmid, h⟩)
    · exact absurd (ends_skip.2 rfl) h.not_ends
    · rwa [ends_skip.1 hmid]
  · exact fun h => .inr ⟨_, ends_skip.2 rfl, h⟩

/-- One of several patterns matched. -/
theorem exists_of_ends_firstOf {ps : List Pattern} (h : (firstOf p ps).Ends cs rest) :
    ∃ q ∈ p :: ps, q.Ends cs rest := by
  induction ps generalizing p with
  | nil => exact ⟨p, List.mem_cons_self, h⟩
  | cons q ps ih =>
    rcases ends_either.1 h with h | ⟨-, h⟩
    · exact ⟨p, List.mem_cons_self, h⟩
    · obtain ⟨r, hr, h⟩ := ih h
      exact ⟨r, List.mem_cons_of_mem _ hr, h⟩

/-- Of several patterns one matched that does not refuse the text. -/
theorem exists_allowed_of_firstOf {ps : List Pattern} (allowed : List Pattern)
    (h : (firstOf p ps).Ends cs rest) (hfront : Front ls cs)
    (hask : (p :: ps).all (fun r => r ∈ allowed || ls.all fun l => r.ask l = .refuses) = true) :
    ∃ q ∈ allowed, q.Ends cs rest := by
  obtain ⟨r, hr, hends⟩ := exists_of_ends_firstOf h
  have hcase := List.all_eq_true.1 hask r hr
  rw [Bool.or_eq_true, decide_eq_true_eq] at hcase
  rcases hcase with hallowed | hrefuses
  · exact ⟨r, hallowed, hends⟩
  · exact hfront.absurd hends hrefuses

/-- If only one of several patterns does not refuse the text, that one matched. -/
theorem ends_of_firstOf {ps : List Pattern} (h : (firstOf p ps).Ends cs rest) (hfront : Front ls cs)
    (hask : (p :: ps).all (fun r => r ∈ [q] || ls.all fun l => r.ask l = .refuses) = true) :
    q.Ends cs rest := by
  obtain ⟨r, hr, hends⟩ := exists_allowed_of_firstOf [q] h hfront hask
  rwa [List.mem_singleton.1 hr] at hends

/-- A rule that begins with layout refuses a text if it refuses what is behind the layout. -/
theorem refuses_rule_of_skip {r : Rule} (hr : r.pattern = both layout q)
    (h : (rule r).Refuses (skip cs)) : (rule r).Refuses cs := by
  rw [refuses_rule, hr, refuses_layout_both] at h ⊢
  rwa [skip_skip] at h

end Pattern

end LoopBound.Grammar
