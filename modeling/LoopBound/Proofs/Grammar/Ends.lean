import LoopBound.Proofs.Grammar.Matching

/-!
# Where a match ends

A match seen from the texts at its two ends: `p.Ends cs rest` when `p` matches at the front of `cs`
and leaves `rest`, `p.Refuses cs` when it does not match there. Sequences compose without any count
of characters, and a pattern ends at one place at most.
-/

namespace LoopBound.Grammar

namespace Pattern

/-- The pattern does not match at the front of the text. -/
def Refuses (p : Pattern) (cs : List Char) : Prop :=
  p.match? cs = none

/-- The pattern matches at the front of the text and leaves `rest`. -/
def Ends (p : Pattern) (cs rest : List Char) : Prop :=
  ∃ m, p.match? cs = some m ∧ cs.drop m.length = rest

variable {p q : Pattern} {cs mid rest rest' : List Char}

theorem Ends.unique (h : p.Ends cs rest) (h' : p.Ends cs rest') : rest = rest' := by
  obtain ⟨m, hm, rfl⟩ := h
  obtain ⟨m', hm', rfl⟩ := h'
  rw [hm, Option.some.injEq] at hm'
  rw [hm']

theorem Refuses.not_ends (h : p.Refuses cs) : ¬p.Ends cs rest := by
  rintro ⟨m, hm, -⟩
  rw [Refuses, hm] at h
  cases h

theorem Ends.not_refuses (h : p.Ends cs rest) : ¬p.Refuses cs :=
  fun hr => hr.not_ends h

theorem refuses_or_ends (p : Pattern) (cs : List Char) : p.Refuses cs ∨ ∃ rest, p.Ends cs rest := by
  cases h : p.match? cs with
  | none => exact .inl h
  | some m => exact .inr ⟨_, m, h, rfl⟩

theorem Ends.suffix (h : p.Ends cs rest) : rest <:+ cs := by
  obtain ⟨m, -, rfl⟩ := h
  exact List.drop_suffix _ _

theorem Ends.length_le (h : p.Ends cs rest) : rest.length ≤ cs.length :=
  h.suffix.length_le

theorem Ends.length_lt (hp : p.mayBeEmpty = false) (h : p.Ends cs rest) :
    rest.length < cs.length := by
  obtain ⟨m, hm, rfl⟩ := h
  have hle := match?_le hm
  have hpos := match?_pos hp hm
  rw [List.length_drop]
  omega

/-! ## Texts, tokens and rules -/

theorem ends_text {w : List Char} : (text w).Ends cs rest ↔ cs = w ++ rest := by
  simp only [Ends, match?_text, Option.map_eq_some_iff, spelled?_eq_some]
  constructor
  · rintro ⟨_, ⟨_, ⟨hfront, rfl⟩, rfl⟩, rfl⟩
    exact (List.prefix_iff_eq_append.1 hfront).symm
  · rintro rfl
    exact ⟨_, ⟨_, ⟨List.prefix_append _ _, rfl⟩, rfl⟩, by simp⟩

theorem refuses_text {w : List Char} : (text w).Refuses cs ↔ ¬w <+: cs := by
  rw [Refuses, match?_text, Option.map_eq_none_iff, spelled?]
  split
  · rename_i h
    simp [List.isPrefixOf_iff_prefix.1 h]
  · rename_i h
    rw [List.isPrefixOf_iff_prefix] at h
    simp [h]

theorem ends_token {t : Token} :
    (token t).Ends cs rest ↔ ∃ n, t.length? cs = some n ∧ cs.drop n = rest := by
  simp only [Ends, match?_token, Option.map_eq_some_iff]
  constructor
  · rintro ⟨_, ⟨n, hn, rfl⟩, h⟩
    exact ⟨n, hn, h⟩
  · rintro ⟨n, hn, h⟩
    exact ⟨_, ⟨n, hn, rfl⟩, h⟩

theorem refuses_token {t : Token} : (token t).Refuses cs ↔ t.length? cs = none := by
  rw [Refuses, match?_token, Option.map_eq_none_iff]

theorem ends_rule {r : Rule} : (rule r).Ends cs rest ↔ r.pattern.Ends cs rest := by
  simp only [Ends, match?_rule, Option.map_eq_some_iff]
  constructor
  · rintro ⟨_, ⟨m, hm, rfl⟩, h⟩
    exact ⟨m, hm, h⟩
  · rintro ⟨m, hm, h⟩
    exact ⟨_, ⟨m, hm, rfl⟩, h⟩

theorem refuses_rule {r : Rule} : (rule r).Refuses cs ↔ r.pattern.Refuses cs := by
  rw [Refuses, match?_rule, Option.map_eq_none_iff, Refuses]

theorem ends_drop : (drop p).Ends cs rest ↔ p.Ends cs rest := by
  simp only [Ends, match?_drop, Option.map_eq_some_iff]
  constructor
  · rintro ⟨_, ⟨m, hm, rfl⟩, h⟩
    exact ⟨m, hm, h⟩
  · rintro ⟨m, hm, h⟩
    exact ⟨_, ⟨m, hm, rfl⟩, h⟩

theorem refuses_drop : (drop p).Refuses cs ↔ p.Refuses cs := by
  rw [Refuses, match?_drop, Option.map_eq_none_iff, Refuses]

theorem ends_layout : layout.Ends cs rest ↔ cs.drop (layoutLength cs) = rest := by
  rw [layout, ends_drop, ends_token]
  simp [Token.length?]

theorem ends_sameLine : sameLine.Ends cs rest ↔ cs.drop (sameLineLength cs) = rest := by
  rw [sameLine, ends_drop, ends_token]
  simp [Token.length?]

theorem ends_keyword {k : Keyword} :
    (keyword k).Ends cs rest ↔ cs = k.spelling.toList ++ rest ∧ atNameEdge rest = true := by
  rw [keyword, ends_drop, ends_token]
  simp only [Token.length?, wordLength?_eq_some]
  constructor
  · rintro ⟨_, ⟨hfront, rfl, hedge⟩, rfl⟩
    exact ⟨(List.prefix_iff_eq_append.1 hfront).symm, hedge⟩
  · rintro ⟨rfl, hedge⟩
    exact ⟨_, ⟨List.prefix_append _ _, rfl, by simpa using hedge⟩, by simp⟩

/-! ## Combinations -/

theorem match?_empty (cs : List Char) : empty.match? cs = some ⟨0, []⟩ := rfl

theorem match?_optional (p : Pattern) (cs : List Char) :
    (optional p).match? cs = some ((p.match? cs).getD ⟨0, []⟩) := rfl

theorem ends_empty : empty.Ends cs rest ↔ cs = rest := by
  simp [Ends, match?_empty]

theorem ends_both : (both p q).Ends cs rest ↔ ∃ mid, p.Ends cs mid ∧ q.Ends mid rest := by
  constructor
  · rintro ⟨m, hm, rfl⟩
    cases hp : p.match? cs with
    | none =>
      rw [match?_both_of_none hp] at hm
      cases hm
    | some first =>
      rw [match?_both_of_some hp, Option.map_eq_some_iff] at hm
      obtain ⟨second, hsecond, rfl⟩ := hm
      exact ⟨_, ⟨first, hp, rfl⟩, second, hsecond, by rw [List.drop_drop]⟩
  · rintro ⟨_, ⟨first, hp, rfl⟩, second, hsecond, rfl⟩
    refine ⟨_, by rw [match?_both_of_some hp, hsecond, Option.map_some], ?_⟩
    rw [List.drop_drop]

theorem refuses_both :
    (both p q).Refuses cs ↔ p.Refuses cs ∨ ∃ mid, p.Ends cs mid ∧ q.Refuses mid := by
  constructor
  · intro h
    rcases refuses_or_ends p cs with hp | ⟨mid, hp⟩
    · exact .inl hp
    · refine .inr ⟨mid, hp, (refuses_or_ends q mid).resolve_right ?_⟩
      rintro ⟨rest, hq⟩
      exact h.not_ends (ends_both.2 ⟨mid, hp, hq⟩)
  · rintro (hp | ⟨mid, hp, hq⟩)
    · exact match?_both_of_none hp
    · refine (refuses_or_ends _ _).resolve_right ?_
      rintro ⟨rest, h⟩
      obtain ⟨mid', hp', hq'⟩ := ends_both.1 h
      exact hq.not_ends (hp.unique hp' ▸ hq')

theorem ends_either :
    (either p q).Ends cs rest ↔ p.Ends cs rest ∨ p.Refuses cs ∧ q.Ends cs rest := by
  cases hp : p.match? cs with
  | none => simp [Ends, Refuses, hp, match?_either_of_none hp]
  | some m => simp [Ends, Refuses, hp, match?_either_of_some hp]

theorem refuses_either : (either p q).Refuses cs ↔ p.Refuses cs ∧ q.Refuses cs := by
  cases hp : p.match? cs with
  | none => simp [Refuses, hp, match?_either_of_none hp]
  | some m => simp [Refuses, hp, match?_either_of_some hp]

theorem ends_optional :
    (optional p).Ends cs rest ↔ p.Ends cs rest ∨ p.Refuses cs ∧ cs = rest := by
  cases hp : p.match? cs with
  | none => simp [Ends, Refuses, hp, match?_optional]
  | some m => simp [Ends, Refuses, hp, match?_optional]

theorem ends_absent : (absent p).Ends cs rest ↔ p.Refuses cs ∧ cs = rest := by
  cases hp : p.match? cs with
  | none => simp [Ends, Refuses, hp, match?_absent_of_none hp]
  | some m => simp [Ends, Refuses, hp, match?_absent_of_some hp]

theorem refuses_absent : (absent p).Refuses cs ↔ ∃ rest, p.Ends cs rest := by
  cases hp : p.match? cs with
  | none => simp [Ends, Refuses, hp, match?_absent_of_none hp]
  | some m => simp [Ends, Refuses, hp, match?_absent_of_some hp]

/-! ## Repetition -/

theorem ends_many (hp : p.mayBeEmpty = false) : (many p).Ends cs rest
    ↔ (∃ mid, p.Ends cs mid ∧ (many p).Ends mid rest) ∨ p.Refuses cs ∧ cs = rest := by
  cases h : p.match? cs with
  | none =>
    have hstop : (many p).match? cs = some ⟨0, []⟩ :=
      match?_many_of_stop fun m hm => by rw [h] at hm; cases hm
    simp [Ends, Refuses, h, hstop]
  | some m =>
    have hstep := match?_many_of_some h (match?_pos hp h)
    simp only [Ends, Refuses, h, hstep, Option.map_eq_some_iff, Option.some.injEq, reduceCtorEq,
      false_and, or_false]
    constructor
    · rintro ⟨_, ⟨m', hm', rfl⟩, rfl⟩
      exact ⟨_, ⟨m, rfl, rfl⟩, m', hm', by rw [List.drop_drop]⟩
    · rintro ⟨_, ⟨_, rfl, rfl⟩, m', hm', rfl⟩
      exact ⟨_, ⟨m', hm', rfl⟩, by rw [List.drop_drop]⟩

end Pattern

end LoopBound.Grammar
