import LoopBound.Text.Position
import Mathlib.Data.List.Induction
import Mathlib.Data.Prod.Lex

/-!
# Positions grow with their offsets

A further offset of a text has a later position, so no two offsets share one. The binary search
among the line starts finds the position that reading the text in front of an offset comes to: the
starts up to the offset are one more than the line feeds in front of it, and the last of them is
where the line of the offset begins.
-/

namespace LoopBound.Text

namespace Position

/-! ## Order -/

/-- The line, and within it the column. -/
def key (p : Position) : Nat ×ₗ Nat :=
  toLex (p.line, p.column)

theorem key_injective : Function.Injective key := by
  rintro ⟨l, c⟩ ⟨l', c'⟩ h
  obtain ⟨rfl, rfl⟩ := Prod.mk.inj (toLex.injective h)
  rfl

instance : PartialOrder Position :=
  PartialOrder.lift key key_injective

theorem lt_iff {p q : Position} : p < q ↔ p.line < q.line ∨ p.line = q.line ∧ p.column < q.column :=
  Prod.Lex.toLex_lt_toLex

theorem before_iff {p q : Position} : p.before q = true ↔ p < q := by
  rw [lt_iff, before]
  simp

theorem not_before_of_le {p q : Position} (h : p ≤ q) : q.before p = false := by
  rw [Bool.eq_false_iff, Ne, before_iff]
  exact not_lt_of_ge h

/-! ## Reading on -/

theorem after_concat (cs : List Char) (c : Char) : after (cs ++ [c])
    = if c = '\n' then ⟨(after cs).line + 1, 1⟩ else ⟨(after cs).line, (after cs).column + 1⟩ := by
  by_cases hc : c = '\n'
  · simp [after, hc]
  · simp [after, hc, List.count_append]

theorem after_lt_concat (cs : List Char) (c : Char) : after cs < after (cs ++ [c]) := by
  rw [after_concat, lt_iff]
  split
  · exact .inl (Nat.lt_succ_self _)
  · exact .inr ⟨rfl, Nat.lt_succ_self _⟩

theorem after_lt_append (cs : List Char) {ds : List Char} (h : ds ≠ []) :
    after cs < after (cs ++ ds) := by
  induction ds generalizing cs with
  | nil => exact absurd rfl h
  | cons d ds ih =>
    rw [List.append_cons]
    cases ds with
    | nil =>
      rw [List.append_nil]
      exact after_lt_concat cs d
    | cons e ds => exact (after_lt_concat cs d).trans (ih _ (List.cons_ne_nil e ds))

theorem ofOffset_natCast (cs : List Char) (k : Nat) : ofOffset cs k = after (cs.take k) := rfl

/-- A further offset has a later position. -/
theorem ofOffset_lt {cs : List Char} {j k : Nat} (h : j < k) (hk : k ≤ cs.length) :
    ofOffset cs j < ofOffset cs k := by
  have htake : cs.take k = cs.take j ++ (cs.drop j).take (k - j) := by
    rw [← List.take_add]
    congr 1
    omega
  rw [ofOffset_natCast, ofOffset_natCast, htake]
  refine after_lt_append _ fun hnil => ?_
  have hlen := congrArg List.length hnil
  rw [List.length_take, List.length_drop, List.length_nil] at hlen
  omega

theorem ofOffset_le {cs : List Char} {j k : Nat} (h : j ≤ k) (hk : k ≤ cs.length) :
    ofOffset cs j ≤ ofOffset cs k := by
  rcases Nat.eq_or_lt_of_le h with rfl | h
  · exact le_refl _
  · exact (ofOffset_lt h hk).le

/-- Two offsets of one text have two positions. -/
theorem ofOffset_inj {cs : List Char} {j k : Nat} (hj : j ≤ cs.length) (hk : k ≤ cs.length) :
    ofOffset cs j = ofOffset cs k ↔ j = k := by
  refine ⟨fun h => ?_, fun h => by rw [h]⟩
  rcases Nat.lt_trichotomy j k with hlt | heq | hlt
  · exact absurd h (ofOffset_lt hlt hk).ne
  · exact heq
  · exact absurd h.symm (ofOffset_lt hlt hj).ne

end Position

/-! ## Line starts -/

theorem startsFrom_append (offset : Nat) (cs ds : List Char) :
    startsFrom offset (cs ++ ds) = startsFrom offset cs ++ startsFrom (offset + cs.length) ds := by
  induction cs generalizing offset with
  | nil => rfl
  | cons c cs ih =>
    have hlen : offset + (c :: cs).length = offset + 1 + cs.length := by
      rw [List.length_cons]
      omega
    rw [List.cons_append, startsFrom, startsFrom, ih, hlen]
    split <;> rfl

theorem length_startsFrom (offset : Nat) (cs : List Char) :
    (startsFrom offset cs).length = cs.count '\n' := by
  induction cs generalizing offset with
  | nil => rfl
  | cons c cs ih =>
    rw [startsFrom, List.count_cons]
    split <;> simp [ih]

theorem startsFrom_bounds {offset start : Nat} {cs : List Char} (h : start ∈ startsFrom offset cs) :
    offset < start ∧ start ≤ offset + cs.length := by
  induction cs generalizing offset with
  | nil => cases h
  | cons c cs ih =>
    have hmem : start = offset + 1 ∨ start ∈ startsFrom (offset + 1) cs := by
      rw [startsFrom] at h
      split at h
      · exact List.mem_cons.1 h
      · exact .inr h
    rw [List.length_cons]
    rcases hmem with rfl | hmem
    · omega
    · have hbounds := ih hmem
      omega

/-- The last line begins behind the last line feed. -/
theorem getLast_startsFrom (cs : List Char) :
    (0 :: startsFrom 0 cs).getLast (List.cons_ne_nil _ _)
      + (cs.reverse.takeWhile (· != '\n')).length = cs.length := by
  induction cs using List.reverseRecOn with
  | nil => rfl
  | append_singleton cs c ih =>
    simp only [startsFrom_append, startsFrom, List.reverse_append, List.reverse_singleton,
      List.singleton_append, List.takeWhile_cons, List.length_append, List.length_singleton,
      Nat.zero_add]
    by_cases hc : c = '\n'
    · simp [hc, List.getLast_cons]
    · simp only [hc, beq_iff_eq, if_false, List.append_nil, bne_iff_ne, ne_eq, not_false_eq_true,
        if_true, List.length_cons]
      omega

/-- The search finds where the entries that are not above the offset end. -/
theorem countUpTo_eq {starts : Array Nat} {below above : List Nat} {offset : Nat}
    (hstarts : starts = (below ++ above).toArray) (hbelow : ∀ start ∈ below, start ≤ offset)
    (habove : ∀ start ∈ above, offset < start) {low high : Nat} (hlow : low ≤ below.length)
    (hhigh : below.length ≤ high) (hsize : high ≤ starts.size) :
    countUpTo starts offset low high = below.length := by
  have hget : ∀ i, i < starts.size → (offset < starts[i]?.getD 0 ↔ below.length ≤ i) := by
    intro i hi
    rw [hstarts, List.size_toArray, List.length_append] at hi
    rw [hstarts, List.getElem?_toArray]
    rcases Nat.lt_or_ge i below.length with hlt | hge
    · rw [List.getElem?_append_left hlt, List.getElem?_eq_getElem hlt, Option.getD_some]
      have hle := hbelow _ (List.getElem_mem hlt)
      omega
    · have hrest : i - below.length < above.length := by omega
      rw [List.getElem?_append_right hge, List.getElem?_eq_getElem hrest, Option.getD_some]
      exact ⟨fun _ => hge, fun _ => habove _ (List.getElem_mem hrest)⟩
  induction low, high using countUpTo.induct starts offset with
  | case1 low high hlt mid hmid ih =>
    have hside := (hget mid (by omega)).1 hmid
    rw [countUpTo, if_pos hlt, if_pos hmid]
    exact ih hlow hside (by omega)
  | case2 low high hlt mid hmid ih =>
    have hside := mt (hget mid (by omega)).2 hmid
    rw [countUpTo, if_pos hlt, if_neg hmid]
    exact ih (by omega) hhigh hsize
  | case3 low high hge =>
    rw [countUpTo, if_neg hge]
    omega

/-- The starts in front of an offset, and those behind it. -/
theorem lineStarts_split {cs : List Char} {k : Nat} (h : k ≤ cs.length) : lineStarts cs
    = ((0 :: startsFrom 0 (cs.take k)) ++ startsFrom k (cs.drop k)).toArray := by
  have hlen : (cs.take k).length = k := List.length_take_of_le h
  conv_lhs => rw [lineStarts, ← List.take_append_drop k cs, startsFrom_append, hlen, Nat.zero_add]
  rfl

/-- The last start in front of an offset is where its line begins. -/
theorem getElem?_lineStarts {cs : List Char} {k : Nat} (h : k ≤ cs.length) :
    (lineStarts cs)[(Position.ofOffset cs k).line - 1]?
      = some ((0 :: startsFrom 0 (cs.take k)).getLast (List.cons_ne_nil _ _)) := by
  have hline : (Position.ofOffset cs k).line - 1
      = (0 :: startsFrom 0 (cs.take k)).length - 1 := by
    rw [List.length_cons, length_startsFrom]
    rfl
  rw [hline, lineStarts_split h, List.getElem?_toArray, List.getElem?_append_left (by simp),
    ← List.getLast?_eq_getElem?, List.getLast?_eq_some_getLast (List.cons_ne_nil _ _)]

/-- **The search finds the position that reading comes to.** -/
theorem search_lineStarts {cs : List Char} {k : Nat} (h : k ≤ cs.length) :
    Position.search (lineStarts cs) k = Position.ofOffset cs k := by
  have hlen : (cs.take k).length = k := List.length_take_of_le h
  have hsplit := lineStarts_split h
  have hbelow : ∀ start ∈ 0 :: startsFrom 0 (cs.take k), start ≤ k := by
    intro start hstart
    rcases List.mem_cons.1 hstart with rfl | hstart
    · omega
    · have hbounds := startsFrom_bounds hstart
      omega
  have hcount : countUpTo (lineStarts cs) k 0 (lineStarts cs).size
      = (0 :: startsFrom 0 (cs.take k)).length :=
    countUpTo_eq hsplit hbelow (fun start hstart => (startsFrom_bounds hstart).1) (Nat.zero_le _)
      (by rw [hsplit, List.size_toArray, List.length_append]; omega) (Nat.le_refl _)
  have hline : (0 :: startsFrom 0 (cs.take k)).length = (Position.ofOffset cs k).line := by
    rw [List.length_cons, length_startsFrom]
    rfl
  have hrun := getLast_startsFrom (cs.take k)
  rw [Position.search, hcount, hline, getElem?_lineStarts h, Option.getD_some,
    Position.ofOffset_natCast, Position.after, Position.mk.injEq]
  refine ⟨rfl, ?_⟩
  omega

end LoopBound.Text
