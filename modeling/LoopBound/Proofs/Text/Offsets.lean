import LoopBound.Proofs.Text.Position
import Mathlib.Data.List.TakeWhile

/-!
# Offsets are read back from positions

A line begins behind a line feed, or with the text, and between its start and an offset of it no
line feed stands. So a position gives its offset back: the start of its line, and one less than its
column.
-/

namespace LoopBound.Text

namespace Position

/-- What stands in front of a text's last line. -/
def aboveLast (cs : List Char) : List Char :=
  (cs.reverse.dropWhile (· != '\n')).reverse

theorem aboveLast_append (cs : List Char) :
    aboveLast cs ++ (cs.reverse.takeWhile (· != '\n')).reverse = cs := by
  rw [aboveLast, ← List.reverse_append, List.takeWhile_append_dropWhile, List.reverse_reverse]

theorem aboveLast_isPrefix (cs : List Char) : aboveLast cs <+: cs :=
  ⟨_, aboveLast_append cs⟩

/-- The last line begins where what stands in front of it ends. -/
theorem after_aboveLast (cs : List Char) : after (aboveLast cs) = ⟨(after cs).line, 1⟩ := by
  have hrun : (cs.reverse.takeWhile (· != '\n')).reverse.count '\n' = 0 := by
    rw [List.count_reverse, List.count_eq_zero]
    exact fun hmem => by simpa using List.mem_takeWhile_imp hmem
  have hcount : cs.count '\n' = (aboveLast cs).count '\n' := by
    conv_lhs => rw [← aboveLast_append cs, List.count_append, hrun]
    rfl
  have hstop : (aboveLast cs).reverse.takeWhile (· != '\n') = [] := by
    rw [aboveLast, List.reverse_reverse, List.takeWhile_eq_nil_iff]
    intro hlen
    have hhead := List.head_dropWhile_not (· != '\n') (List.ne_nil_of_length_pos hlen)
    rw [List.head_eq_getElem] at hhead
    simpa using hhead
  rw [after, after, hcount, hstop]
  rfl

/-- An offset's line begins at a start, and the column counts from there. -/
theorem exists_lineStart {cs : List Char} {k : Nat} (h : k ≤ cs.length) :
    ∃ start, (lineStarts cs)[(ofOffset cs k).line - 1]? = some start
      ∧ ofOffset cs start = ⟨(ofOffset cs k).line, 1⟩
      ∧ k = start + (ofOffset cs k).column - 1 := by
  have hrun := getLast_startsFrom (cs.take k)
  rw [List.length_take_of_le h] at hrun
  refine ⟨_, getElem?_lineStarts h, ?_, ?_⟩
  · have hlen := congrArg List.length (aboveLast_append (cs.take k))
    rw [List.length_append, List.length_reverse, List.length_take_of_le h] at hlen
    have htake := List.prefix_iff_eq_take.1
      ((aboveLast_isPrefix (cs.take k)).trans (List.take_prefix k cs))
    have hstart : (0 :: startsFrom 0 (cs.take k)).getLast (List.cons_ne_nil _ _)
        = (aboveLast (cs.take k)).length := by omega
    rw [hstart, ofOffset_natCast, ← htake, after_aboveLast, ← ofOffset_natCast]
  · have hcolumn : (ofOffset cs k).column
        = ((cs.take k).reverse.takeWhile (· != '\n')).length + 1 := rfl
    omega

/-- The offset of a position in a text. -/
def offsetIn (cs : List Char) (p : Position) : Nat :=
  (lineStarts cs)[p.line - 1]?.getD 0 + (p.column - 1)

/-- A position gives its offset back. -/
theorem offsetIn_ofOffset {cs : List Char} {k : Nat} (h : k ≤ cs.length) :
    (ofOffset cs k).offsetIn cs = k := by
  obtain ⟨start, hstart, -, hk⟩ := exists_lineStart h
  have hcolumn : 1 ≤ (ofOffset cs k).column := Nat.succ_pos _
  rw [offsetIn, hstart, Option.getD_some]
  omega

/-- An offset in front of the text has the position of its start. -/
theorem ofOffset_of_nonpos (cs : List Char) {i : Int} (h : i ≤ 0) :
    ofOffset cs i = ofOffset cs 0 := by
  rw [ofOffset, ofOffset, Int.toNat_of_nonpos h]
  rfl

/-- An offset behind the text has the position of its end. -/
theorem ofOffset_of_length_le (cs : List Char) {i : Int} (h : cs.length ≤ i) :
    ofOffset cs i = ofOffset cs cs.length := by
  rw [ofOffset, List.take_of_length_le (by omega), ofOffset_natCast, List.take_length]

/-- **The search and the reading agree, and they are faithful.** -/
theorem search_faithful {cs : List Char} {k : Nat} (h : k ≤ cs.length) :
    search (lineStarts cs) k = ofOffset cs k
      ∧ (∀ j < k, (ofOffset cs j).line < (ofOffset cs k).line
          ∨ (ofOffset cs j).line = (ofOffset cs k).line
            ∧ (ofOffset cs j).column < (ofOffset cs k).column)
      ∧ (∀ j ≤ cs.length, ofOffset cs j = ofOffset cs k → j = k)
      ∧ (∃ start, (lineStarts cs)[(ofOffset cs k).line - 1]? = some start
          ∧ ofOffset cs start = ⟨(ofOffset cs k).line, 1⟩
          ∧ k = start + (ofOffset cs k).column - 1)
      ∧ (∀ i : Int, i ≤ 0 → ofOffset cs i = ofOffset cs 0)
      ∧ (∀ i : Int, cs.length ≤ i → ofOffset cs i = ofOffset cs cs.length) :=
  ⟨search_lineStarts h, fun _ hj => lt_iff.1 (ofOffset_lt hj h), fun _ hj => (ofOffset_inj hj h).1,
    exists_lineStart h, fun _ => ofOffset_of_nonpos cs, fun _ => ofOffset_of_length_le cs⟩

/-- Between two line feeds, a line of its own begins and ends. -/
theorem search_faithful_empty_line : 2 ≤ ['a', '\n', '\n', 'b'].length
    ∧ search (lineStarts ['a', '\n', '\n', 'b']) 2 = ⟨2, 1⟩ := by
  have h : 2 ≤ ['a', '\n', '\n', 'b'].length := by decide
  exact ⟨h, (search_faithful h).1.trans (by decide)⟩

end Position

end LoopBound.Text
