import LoopBound.Grammar.Names
import LoopBound.Proofs.Grammar.Yields
import Mathlib.Data.Prod.Lex
import Mathlib.Logic.Relation

/-!
# Matching ends

Matching a rule tries other rules, some where the rule itself began and some further on. `Tries`
says which, and where. What is tried further on stands in front of a shorter text, and what is tried
where the rule began comes before it in the order of the rules; so each try lowers the pair of what
is left of the text and the rank of the rule, and no rule comes back to itself at the same place.
-/

namespace LoopBound.Grammar

/-! ## What a match tries -/

/-- While the pattern is matched in front of the first text, the rule is tried in front of the
second. -/
inductive Tries : Pattern → List Char → Rule → List Char → Prop
  | rule (r : Rule) (cs : List Char) : Tries (.rule r) cs r cs
  | drop {p : Pattern} {cs ds : List Char} {r : Rule} (h : Tries p cs r ds) :
      Tries (.drop p) cs r ds
  | bothLeft {p q : Pattern} {cs ds : List Char} {r : Rule} (h : Tries p cs r ds) :
      Tries (.both p q) cs r ds
  | bothRight {p q : Pattern} {cs ds : List Char} {r : Rule} {m : Matched}
      (hp : Yields p cs (some m)) (h : Tries q (cs.drop m.length) r ds) :
      Tries (.both p q) cs r ds
  | eitherLeft {p q : Pattern} {cs ds : List Char} {r : Rule} (h : Tries p cs r ds) :
      Tries (.either p q) cs r ds
  | eitherRight {p q : Pattern} {cs ds : List Char} {r : Rule} (hp : Yields p cs none)
      (h : Tries q cs r ds) : Tries (.either p q) cs r ds
  | optional {p : Pattern} {cs ds : List Char} {r : Rule} (h : Tries p cs r ds) :
      Tries (.optional p) cs r ds
  | manyFirst {p : Pattern} {cs ds : List Char} {r : Rule} (h : Tries p cs r ds) :
      Tries (.many p) cs r ds
  | manyLater {p : Pattern} {cs ds : List Char} {r : Rule} {m : Matched}
      (hp : Yields p cs (some m)) (h : Tries (.many p) (cs.drop m.length) r ds) :
      Tries (.many p) cs r ds
  | absent {p : Pattern} {cs ds : List Char} {r : Rule} (h : Tries p cs r ds) :
      Tries (.absent p) cs r ds

/-- A rule is tried in front of a shorter text, or it is one that the pattern asks for first. -/
theorem Tries.shorter_or_first {p : Pattern} (hp : p.Advances) {cs ds : List Char} {r : Rule}
    (h : Tries p cs r ds) : ds.length < cs.length ∨ ds = cs ∧ r ∈ p.firstRules := by
  induction h with
  | rule => exact .inr ⟨rfl, List.mem_cons_self⟩
  | drop _ ih | optional _ ih | absent _ ih => exact ih hp
  | manyFirst _ ih => exact ih hp.of_many
  | bothLeft _ ih =>
    exact (ih hp.left_both).imp_right (And.imp_right (List.mem_append_left _))
  | @bothRight p q cs ds r m hfirst _ ih =>
    have hm : p.match? cs = some m := (hfirst.eq_match? hp.left_both).symm
    have hle := Pattern.match?_le hm
    have hlater := ih hp.right_both
    rw [List.length_drop] at hlater
    cases hlen : m.length with
    | zero =>
      rw [hlen, Nat.sub_zero, List.drop_zero] at hlater
      refine hlater.imp_right (And.imp_right fun hr => List.mem_append_right _ ?_)
      rwa [(p.run_bounds (laid_placesOf cs) hm).2 hlen, if_pos rfl]
    | succ n =>
      rcases hlater with hlt | ⟨rfl, -⟩
      · exact .inl (by omega)
      · refine .inl ?_
        rw [List.length_drop]
        omega
  | eitherLeft _ ih =>
    exact (ih hp.left_either).imp_right (And.imp_right (List.mem_append_left _))
  | eitherRight _ _ ih =>
    exact (ih hp.right_either).imp_right (And.imp_right (List.mem_append_right _))
  | @manyLater p cs ds r m hround _ ih =>
    have hm : p.match? cs = some m := (hround.eq_match? hp.of_many).symm
    have hle := Pattern.match?_le hm
    have hpos := Pattern.match?_pos hp.not_mayBeEmpty hm
    have hlater := ih hp
    rw [List.length_drop] at hlater
    rcases hlater with hlt | ⟨rfl, -⟩
    · exact .inl (by omega)
    · refine .inl ?_
      rw [List.length_drop]
      omega

/-- Matching the first rule in front of its text tries the second rule in front of its text. -/
def Calls (a b : Rule × List Char) : Prop :=
  Tries a.1.pattern a.2 b.1 b.2

/-- How far a rule at a place is from the end of matching. -/
def remaining (a : Rule × List Char) : Nat ×ₗ Nat :=
  toLex (a.2.length, a.1.rank)

theorem Calls.remaining_lt {a b : Rule × List Char} (h : Calls a b) : remaining b < remaining a := by
  rw [remaining, remaining, Prod.Lex.toLex_lt_toLex]
  rcases h.shorter_or_first a.1.advances with hlt | ⟨he, hr⟩
  · exact .inl hlt
  · exact .inr ⟨congrArg List.length he, Rule.rank_lt_of_mem_firstRules hr⟩

theorem remaining_lt_of_transGen {a b : Rule × List Char} (h : Relation.TransGen Calls a b) :
    remaining b < remaining a := by
  induction h with
  | single h => exact h.remaining_lt
  | tail _ h ih => exact h.remaining_lt.trans ih

/-- No rule comes back to itself at the same place. -/
theorem not_transGen_calls (a : Rule × List Char) : ¬Relation.TransGen Calls a a :=
  fun h => lt_irrefl _ (remaining_lt_of_transGen h)

/-! ## The rules by name -/

/-- What goes by a name is a rule or a token. -/
theorem repetitions_of_named? {name : String} {p : Pattern} (h : Pattern.named? name = some p) :
    p.repetitions = [] := by
  have hall : Pattern.names.all (fun entry => entry.2.repetitions.isEmpty) = true := by
    decide +kernel
  unfold Pattern.named? at h
  split at h
  · rename_i q hq
    obtain rfl := Option.some.inj h
    obtain ⟨before, behind, hnames, -⟩ := List.lookup_eq_some_iff.1 hq
    have hmem : (name, q) ∈ Pattern.names := by simp [hnames]
    simpa using List.all_eq_true.1 hall _ hmem
  · obtain ⟨k, -, rfl⟩ := Option.map_eq_some_iff.1 h
    rfl

theorem advances_of_named? {name : String} {p : Pattern} (h : Pattern.named? name = some p) :
    p.Advances := by
  intro q hq
  rw [repetitions_of_named? h] at hq
  cases hq

/-! ## The theorem -/

/-- **Matching ends.** At every place of every text a rule comes to exactly one outcome, which is
the one that is computed: a match that does not go past the end of the text, or none. No rule comes
back to itself at the same place, and what a rule repeats takes something each time. Where repeating
is bounded by fuel, any fuel longer than the text gives the same. -/
theorem matching_ends {name : String} {p : Pattern} (h : Pattern.named? name = some p)
    (text : List Char) (pos : Nat) :
    (∃! outcome, Yields p (text.drop pos) outcome)
      ∧ Yields p (text.drop pos) (p.match? (text.drop pos))
      ∧ (∀ m, p.match? (text.drop pos) = some m → m.length ≤ (text.drop pos).length)
      ∧ (∀ r : Rule, ¬Relation.TransGen Calls (r, text.drop pos) (r, text.drop pos))
      ∧ (∀ r : Rule, ∀ q ∈ r.pattern.repetitions, ∀ m,
          Yields q (text.drop pos) (some m) → 0 < m.length)
      ∧ (∀ r : Rule, ∀ q ∈ r.pattern.repetitions, ∀ fuel : List Place,
          (text.drop pos).length < fuel.length → (Pattern.many q).match? (text.drop pos)
            = some (repeated q.run fuel (placesOf (text.drop pos))))
      ∧ ∀ fuel : List Char, (text.drop pos).length < fuel.length →
          piecesLength layoutPiece fuel (text.drop pos) = layoutLength (text.drop pos)
            ∧ piecesLength sameLinePiece fuel (text.drop pos) = sameLineLength (text.drop pos) := by
  have hp := advances_of_named? h
  refine ⟨⟨_, yields_match? hp _, fun o ho => ho.eq_match? hp⟩, yields_match? hp _,
    fun m hm => Pattern.match?_le hm, fun r => not_transGen_calls _, ?_, ?_, ?_⟩
  · intro r q hq m hm
    have hround : q.Advances := r.advances.of_mem_repetitions hq
    exact Pattern.match?_pos (r.advances q hq) (hm.eq_match? hround).symm
  · intro r q hq fuel hfuel
    rw [Pattern.match?_many, Pattern.repeated_fuel q hfuel]
    rw [(laid_placesOf _).length_eq]
    exact Nat.lt_succ_self _
  · intro fuel hfuel
    exact ⟨piecesLength_fuel layoutPiece_le (Nat.le_of_lt hfuel) (Nat.le_refl _),
      piecesLength_fuel sameLinePiece_le (Nat.le_of_lt hfuel) (Nat.le_refl _)⟩

/-- A text with a loop behind its first statement. -/
def secondStatement : List Char :=
  "a;for(b of c)d".toList

theorem matching_ends_forOf : Pattern.named? "for_of_statement" = some (.rule .forOfStatement)
    ∧ ((Pattern.rule .forOfStatement).match? (secondStatement.drop 2)).map (·.length) = some 12
    ∧ ∃! outcome, Yields (.rule .forOfStatement) (secondStatement.drop 2) outcome := by
  have hnamed : Pattern.named? "for_of_statement" = some (.rule .forOfStatement) := by
    decide +kernel
  exact ⟨hnamed, by decide +kernel, (matching_ends hnamed secondStatement 2).1⟩

end LoopBound.Grammar
