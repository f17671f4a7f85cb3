import LoopBound.Proofs.Grammar.Yields
import LoopBound.Proofs.Reading.Formed
import LoopBound.Proofs.Text.Position

/-!
# Where reading stops

A text with something left over is reported at the place where the program rule stopped. In front of
it stand complete statements and layout, and behind it begins neither layout nor a statement; what
is shown of the text there is never empty.

The place belongs to the text as a whole. The same characters cut off there need not be a program:
what stands behind them can keep an alternative from matching that matches without them.
-/

namespace LoopBound.Reading

open LoopBound.Grammar
open LoopBound.Text (Position excerpt isBlank slice)

/-! ## What stands behind a match -/

/-- Behind a repetition there is nothing more to repeat. -/
theorem yields_none_of_many {p : Pattern} {cs : List Char} {m : Matched}
    (h : Yields (.many p) cs (some m)) : Yields p (cs.drop m.length) none := by
  generalize hq : Pattern.many p = q at h
  generalize ho : some m = o at h
  induction h generalizing m with
  | stop hround =>
    obtain rfl := Pattern.many.inj hq
    obtain rfl := Option.some.inj ho
    exact hround
  | more _ _ _ ihmore =>
    obtain rfl := Option.some.inj ho
    rw [← List.drop_drop]
    exact ihmore hq rfl
  | _ => cases hq

/-- The program rule takes the statements, and the layout behind the last one. -/
theorem exists_of_matchProgram {cs : List Char} {m : Matched} (h : matchProgram cs = some m) :
    ∃ rounds, Rule.statementList.pattern.match? cs = some rounds
      ∧ m.length = rounds.length + layoutLength (cs.drop rounds.length) := by
  rw [matchProgram, Pattern.match?_rule, Option.map_eq_some_iff] at h
  obtain ⟨body, hbody, rfl⟩ := h
  obtain ⟨list, behind, hlist, hbehind, rfl⟩ := Pattern.exists_of_match?_both hbody
  rw [Pattern.match?_rule, Option.map_eq_some_iff] at hlist
  obtain ⟨rounds, hrounds, rfl⟩ := hlist
  have hlayout := hbehind.symm.trans (Pattern.match?_layout (cs.drop rounds.length))
  exact ⟨rounds, hrounds, by rw [Option.some.inj hlayout]⟩

/-- Where the program rule stops there is no statement, and no layout in front of one. -/
theorem refuses_behind_program {cs : List Char} {m : Matched} (h : matchProgram cs = some m) :
    (Pattern.rule .statement).match? (cs.drop m.length) = none
      ∧ layoutPiece (cs.drop m.length) = 0 := by
  obtain ⟨rounds, hrounds, hlen⟩ := exists_of_matchProgram h
  rw [hlen, ← List.drop_drop]
  refine ⟨?_, layoutPiece_drop_layoutLength _⟩
  have hadvances := Rule.statementList.advances
  have hstop : Yields (.both .layout (.rule .statement)) (cs.drop rounds.length) none :=
    yields_none_of_many (hrounds ▸ yields_match? hadvances cs)
  have hnone : none = (Pattern.both .layout (.rule .statement)).match? (cs.drop rounds.length) :=
    hstop.eq_match? hadvances.of_many
  rw [Pattern.match?_both_of_some (Pattern.match?_layout _), eq_comm, Option.map_eq_none_iff]
    at hnone
  exact hnone

/-! ## No layout -/

theorem commentTail?_isSome {cs body rest : List Char} (h : cs = body ++ '*' :: '/' :: rest) :
    (commentTail? cs).isSome = true := by
  induction body generalizing cs with
  | nil =>
    rw [h]
    rfl
  | cons c body ih =>
    have hlater := ih rfl
    rw [h, List.cons_append]
    unfold commentTail?
    split
    · rename_i heq
      cases heq
    · rfl
    · rename_i heq
      obtain ⟨rfl, rfl⟩ := List.cons.inj heq
      rw [Option.isSome_map]
      exact hlater

/-- The text begins with no blank, no line comment and no comment that is closed. -/
structure NoLayout (cs : List Char) : Prop where
  blank : ∀ c rest, cs = c :: rest → isBlank c = false
  line : ¬['/', '/'] <+: cs
  closed : ∀ body, ¬['/', '*'] ++ body ++ ['*', '/'] <+: cs

theorem noLayout_of_layoutPiece {cs : List Char} (h : layoutPiece cs = 0) : NoLayout cs := by
  refine ⟨?_, ?_, ?_⟩
  · rintro c rest rfl
    rw [Bool.eq_false_iff]
    intro hc
    unfold layoutPiece at h
    split at h
    · simp at *
    · omega
    · rename_i heq
      obtain ⟨rfl, -⟩ := List.cons.inj heq
      exact absurd hc (by decide)
    · rename_i heq
      obtain ⟨rfl, -⟩ := List.cons.inj heq
      rw [if_pos hc] at h
      cases h
  · rintro ⟨rest, rfl⟩
    simp [layoutPiece] at h
  · rintro body ⟨rest, rfl⟩
    have hclosed : (commentTail? (body ++ '*' :: '/' :: rest)).isSome = true :=
      commentTail?_isSome rfl
    obtain ⟨n, hn⟩ := Option.isSome_iff_exists.1 hclosed
    simp [layoutPiece, hn] at h

/-! ## The excerpt -/

theorem slice_eq {α : Type} {xs : List α} {start : Nat} (h : start ≤ xs.length) (width : Nat) :
    slice xs start ((start + width : Nat) : Int) = (xs.drop start).take width := by
  have hstop : min (start + width) xs.length - start = min width (xs.drop start).length := by
    rw [List.length_drop]
    omega
  simp only [slice, Int.not_lt.2 (Int.natCast_nonneg _), if_false, Int.toNat_natCast,
    Nat.min_eq_left h, List.drop_take, hstop]
  rw [← List.take_take, List.take_length]

/-- What is shown of the text at an offset is the rest of the line, cut off. -/
theorem excerpt_eq {cs : List Char} {n : Nat} {c : Char} {rest : List Char}
    (h : cs.drop n = c :: rest) (hc : c ≠ '\n') :
    (excerpt cs n excerptWidth).toList = ((cs.drop n).takeWhile (· != '\n')).take 20 := by
  have hn : n ≤ cs.length := by
    have hlen := congrArg List.length h
    rw [List.length_drop, List.length_cons] at hlen
    omega
  have hchunk : (slice cs n (n + excerptWidth)).takeWhile (· != '\n')
      = ((cs.drop n).takeWhile (· != '\n')).take 20 := by
    rw [List.take_takeWhile]
    exact congrArg _ (slice_eq hn 20)
  have hfull : (((cs.drop n).takeWhile (· != '\n')).take 20).isEmpty = false := by
    simp [h, hc]
  simp only [excerpt, hchunk, hfull, Bool.false_eq_true, if_false, String.toList_ofList]

/-! ## The report -/

/-- A report of text left over, and the offset it is about. -/
structure StopsAt (cs : List Char) (e : ReadError) (pos : Nat) : Prop where
  /-- There is text left. -/
  inside : pos < cs.length
  /-- The offset is the one that has the reported position. -/
  position : ∀ k ≤ cs.length, Position.ofOffset cs k = e.position ↔ k = pos
  /-- The program rule takes the text up to the offset. -/
  taken : (matchProgram cs).map (·.length) = some pos
  /-- It cannot go on: there is no statement here. -/
  noStatement : (Pattern.rule .statement).match? (cs.drop pos) = none
  /-- Nor is there layout. -/
  noLayout : NoLayout (cs.drop pos)
  /-- What is shown is the rest of the line, up to twenty characters. -/
  got : e.got.toList = ((cs.drop pos).takeWhile (· != '\n')).take 20
  /-- There is always something to show. -/
  shown : e.got ≠ ""

/-- **A report of text left over points at the place where reading stopped.** -/
theorem leftOver_stopsAt {text : String} {e : ReadError} (h : parse text = .error e)
    (hcode : e.code = .incompleteParse) : ∃ pos, StopsAt text.toList e pos := by
  obtain ⟨n, tree, houtcome⟩ := exists_outcome text
  have hmatch := houtcome.matched
  obtain ⟨-, hlen⟩ | ⟨hother, -⟩ := houtcome.error e h
  · rw [parse_of_leftOver hmatch hlen, Except.error.injEq] at h
    obtain ⟨hstatement, hpiece⟩ := refuses_behind_program hmatch
    have hlayout : NoLayout (text.toList.drop n) := noLayout_of_layoutPiece hpiece
    have hdrop := List.drop_eq_getElem_cons hlen
    -- a line feed is blank, so the rest of the line is not empty
    have hc : text.toList[n] ≠ '\n' := by
      intro hc
      have hblank := hlayout.blank _ _ hdrop
      rw [hc] at hblank
      exact absurd hblank (by decide)
    have hgot := excerpt_eq hdrop hc
    subst h
    refine ⟨n, hlen, fun k hk => Position.ofOffset_inj hk (by omega), ?_, hstatement, hlayout, hgot,
      fun hempty => ?_⟩
    · rw [hmatch]
      rfl
    · have hnil := hgot.symm.trans (congrArg String.toList hempty)
      rw [hdrop, List.takeWhile_cons, if_pos (bne_iff_ne.2 hc)] at hnil
      cases hnil
  · rw [hcode] at hother
    cases hother

/-- Where text is left over is known from the length of the match alone. -/
theorem parse_of_stop {text : String} {n : Nat}
    (hmatch : (matchProgram text.toList).map (·.length) = some n) (hlen : n < text.toList.length) :
    parse text = .error ⟨.leftOver (excerpt text.toList n excerptWidth),
      Position.ofOffset text.toList n⟩ := by
  obtain ⟨m, tree, houtcome⟩ := exists_outcome text
  have hmatched := houtcome.matched
  obtain rfl : m = n := by
    rw [hmatched] at hmatch
    exact Option.some.inj hmatch
  exact parse_of_leftOver hmatched hlen

theorem leftOver_stopsAt_parenthesis : parse "a;)" = .error ⟨.leftOver ")", ⟨1, 3⟩⟩
    ∧ ∃ pos, StopsAt ['a', ';', ')'] ⟨.leftOver ")", ⟨1, 3⟩⟩ pos := by
  have hmatch : (matchProgram "a;)".toList).map (·.length) = some 2 := by
    decide +kernel
  have hparse : parse "a;)" = .error ⟨.leftOver ")", ⟨1, 3⟩⟩ :=
    parse_of_stop hmatch (by decide)
  exact ⟨hparse, leftOver_stopsAt hparse rfl⟩

/-- Two statements, a comment and something left over. The last quote closes a string, in which the
template is lost that the first slash would divide by. Without that quote the slash divides, and the
statement finds no end. -/
def dividedText : String :=
  "x\n/\x60/;/*$\x7b()=>\x7by\n/\x27/\x7d\x7d\x60*/@\x27"

/-- **The text in front of the stop, alone, need not be a program.** -/
theorem cut_off_at_stop : parse dividedText = .error ⟨.leftOver "@\x27", ⟨3, 9⟩⟩
    ∧ Position.ofOffset dividedText.toList 25 = ⟨3, 9⟩
    ∧ (matchProgram (dividedText.toList.take 25)).map (·.length) = some 0 := by
  have hmatch : (matchProgram dividedText.toList).map (·.length) = some 25 := by
    decide +kernel
  exact ⟨parse_of_stop hmatch (by decide), by decide, by decide +kernel⟩

end LoopBound.Reading
