import LoopBound.Proofs.Grammar.Bounds
import LoopBound.Grammar.Match
import Mathlib.Data.List.Nodup

/-!
# Matching without places

A pattern is matched against places that carry the results of all rules. Here the places are taken
away again: `Pattern.match?` obeys the equations that a grammar is read by, a rule matches what its
pattern matches, and nothing depends on the order in which results were stored.

For that the stored results of a place must be those of the rules. A rule sees only the results of
the rules below it; this is enough, since where it has taken no character yet it asks for no other.
-/

namespace LoopBound.Grammar

/-! ## What may match nothing, and what is asked for first -/

/-- The rules that may match nothing. -/
def Rule.mayBeEmpty : Rule → Bool
  | .endOfInput | .braceEnd | .inputEnd | .statementEnd | .classMembers | .switchCases
  | .statementList | .program => true
  | _ => false

namespace Pattern

/-- The pattern may match nothing. -/
def mayBeEmpty : Pattern → Bool
  | text w => w.isEmpty
  | token t => t.mayBeEmpty
  | rule r => r.mayBeEmpty
  | drop p => p.mayBeEmpty
  | empty => true
  | both p q => p.mayBeEmpty && q.mayBeEmpty
  | either p q => p.mayBeEmpty || q.mayBeEmpty
  | optional _ => true
  | many _ => true
  | absent _ => true

/-- The rules that the pattern may ask for before it takes a character. -/
def firstRules : Pattern → List Rule
  | text _ => []
  | token _ => []
  | rule r => [r]
  | drop p => p.firstRules
  | empty => []
  | both p q => p.firstRules ++ (if p.mayBeEmpty then q.firstRules else [])
  | either p q => p.firstRules ++ q.firstRules
  | optional p => p.firstRules
  | many p => p.firstRules
  | absent p => p.firstRules

end Pattern

theorem Rule.mayBeEmpty_pattern (r : Rule) : r.pattern.mayBeEmpty = r.mayBeEmpty := by
  cases r <;> rfl

/-- The rank of a rule: the number of rules declared before it. -/
def Rule.rank (r : Rule) : Nat :=
  r.ctorIdx

theorem Rule.rank_injective {q r : Rule} (h : q.rank = r.rank) : q = r := by
  rw [← Rule.ofNat_ctorIdx q, ← Rule.ofNat_ctorIdx r]
  exact congrArg Rule.ofNat h

/-- The list goes down through all ranks. -/
theorem Rule.ranks_downward : Rule.downward.map Rule.rank = (List.range 133).reverse := by
  decide +kernel

theorem Rule.mem_downward (r : Rule) : r ∈ Rule.downward := by
  have hrank : r.rank < 133 := by
    cases r <;> decide
  have hmem : r.rank ∈ Rule.downward.map Rule.rank := by
    rw [Rule.ranks_downward, List.mem_reverse, List.mem_range]
    exact hrank
  obtain ⟨q, hq, he⟩ := List.mem_map.1 hmem
  rw [← Rule.rank_injective he]
  exact hq

theorem Rule.falling_downward : Rule.downward.Pairwise fun q r => r.rank < q.rank := by
  have hranks : (Rule.downward.map Rule.rank).Pairwise fun m n => n < m := by
    rw [Rule.ranks_downward, List.pairwise_reverse]
    exact List.pairwise_lt_range
  exact List.pairwise_map.1 hranks

theorem Rule.nodup_downward : Rule.downward.Nodup := by
  refine Rule.falling_downward.imp ?_
  intro q r hlt he
  rw [he] at hlt
  exact Nat.lt_irrefl _ hlt

/-- The rules behind a rule in a list. -/
def rulesBehind (r : Rule) : List Rule → List Rule
  | [] => []
  | q :: qs => if q = r then qs else rulesBehind r qs

/-- In a list of falling ranks the rules of lower rank are behind. -/
theorem mem_rulesBehind {q r : Rule} {rs : List Rule}
    (hfalling : rs.Pairwise fun q r => r.rank < q.rank) (hq : q ∈ rs) (hr : r ∈ rs)
    (h : q.rank < r.rank) : q ∈ rulesBehind r rs := by
  induction rs with
  | nil => exact hq
  | cons s ss ih =>
    obtain ⟨hfirst, hrest⟩ := List.pairwise_cons.1 hfalling
    rw [rulesBehind]
    split
    · rename_i hs
      rcases List.mem_cons.1 hq with rfl | hq
      · rw [hs] at h
        omega
      · exact hq
    · rename_i hs
      have hlater : r ∈ ss := (List.mem_cons.1 hr).resolve_left (Ne.symm hs)
      rcases List.mem_cons.1 hq with rfl | hq
      · have := hfirst r hlater
        omega
      · exact ih hrest hq hlater

/-- A rule begins with rules of lower rank. -/
theorem Rule.rank_lt_of_mem_firstRules {q r : Rule} (h : q ∈ r.pattern.firstRules) :
    q.rank < r.rank := by
  have hall : Rule.downward.all (fun r => r.pattern.firstRules.all fun q => q.rank < r.rank)
      = true := by
    decide +kernel
  exact of_decide_eq_true (List.all_eq_true.1 (List.all_eq_true.1 hall r r.mem_downward) q h)

/-- A rule begins with rules declared before it. -/
theorem Rule.firstRules_behind {q r : Rule} (h : q ∈ r.pattern.firstRules) :
    q ∈ rulesBehind r Rule.downward :=
  mem_rulesBehind Rule.falling_downward q.mem_downward r.mem_downward
    (Rule.rank_lt_of_mem_firstRules h)

/-! ## Places of a text -/

/-- The places belong to the text, and what is stored there fits into it. -/
inductive Laid : List Char → List Place → Prop
  | last {results : Thunk Results}
      (h : ∀ r m, results.get.find r = some m → m.length = 0 ∧ r.mayBeEmpty = true) :
      Laid [] [⟨[], results⟩]
  | front {c : Char} {cs : List Char} {results : Thunk Results} {later : List Place}
      (h : ∀ r m, results.get.find r = some m →
        m.length ≤ (c :: cs).length ∧ (m.length = 0 → r.mayBeEmpty = true))
      (hlater : Laid cs later) : Laid (c :: cs) (⟨c :: cs, results⟩ :: later)

namespace Laid

variable {cs : List Char} {places : List Place}

theorem restOf_eq (h : Laid cs places) : restOf places = cs := by
  cases h <;> rfl

theorem length_eq (h : Laid cs places) : places.length = cs.length + 1 := by
  induction h with
  | last => rfl
  | front _ _ ih => rw [List.length_cons, ih, List.length_cons]

theorem lookup_bounds (h : Laid cs places) {r : Rule} {m : Matched}
    (hm : lookup r places = some m) :
    m.length ≤ cs.length ∧ (m.length = 0 → r.mayBeEmpty = true) := by
  cases h with
  | last hstored =>
    obtain ⟨hlen, hempty⟩ := hstored r m hm
    exact ⟨Nat.le_of_eq hlen, fun _ => hempty⟩
  | front hstored => exact hstored r m hm

theorem drop (h : Laid cs places) {n : Nat} (hn : n ≤ cs.length) :
    Laid (cs.drop n) (places.drop n) := by
  induction h generalizing n with
  | last hstored =>
    obtain rfl : n = 0 := by simpa using hn
    exact .last hstored
  | front hstored hlater ih =>
    cases n with
    | zero => exact .front hstored hlater
    | succ n => exact ih (by simpa using hn)

end Laid

theorem repeated_bounds {step : List Place → Option Matched} (fuel : List Place)
    {cs : List Char} {places : List Place} (h : Laid cs places)
    (hstep : ∀ ds qs m, Laid ds qs → step qs = some m → m.length ≤ ds.length) :
    (repeated step fuel places).length ≤ cs.length := by
  induction fuel generalizing cs places with
  | nil => exact Nat.zero_le _
  | cons _ fuel ih =>
    rw [repeated]
    split
    · rename_i n trees hn
      have hle : n + 1 ≤ cs.length := hstep cs places _ h hn
      have hrest := ih (h.drop hle)
      rw [List.length_drop] at hrest
      simp only
      omega
    · exact Nat.zero_le _

/-- A match takes no more than there is, and nothing only if the pattern allows it. -/
theorem Pattern.run_bounds (p : Pattern) {cs : List Char} {places : List Place}
    (h : Laid cs places) {m : Matched} (hm : p.run places = some m) :
    m.length ≤ cs.length ∧ (m.length = 0 → p.mayBeEmpty = true) := by
  induction p generalizing cs places m with
  | text w =>
    obtain ⟨n, hn, rfl⟩ := Option.map_eq_some_iff.1 hm
    rw [h.restOf_eq, spelled?_eq_some] at hn
    obtain ⟨hfront, rfl⟩ := hn
    exact ⟨hfront.length_le, fun h0 => by simpa [mayBeEmpty] using h0⟩
  | token t =>
    obtain ⟨n, hn, rfl⟩ := Option.map_eq_some_iff.1 hm
    rw [h.restOf_eq] at hn
    exact Token.length?_bounds hn
  | rule r => exact h.lookup_bounds hm
  | drop p ih =>
    obtain ⟨m', hm', rfl⟩ := Option.map_eq_some_iff.1 hm
    exact ih (m := m') h hm'
  | empty =>
    rw [run, Option.some.injEq] at hm
    subst hm
    exact ⟨Nat.zero_le _, fun _ => rfl⟩
  | both p q ihp ihq =>
    rw [run] at hm
    split at hm
    · simp at hm
    · rename_i first hfirst
      split at hm
      · simp at hm
      · rename_i second hsecond
        obtain ⟨hle, hempty⟩ := ihp h hfirst
        obtain ⟨hle', hempty'⟩ := ihq (h.drop hle) hsecond
        rw [List.length_drop] at hle'
        rw [Option.some.injEq] at hm
        subst hm
        refine ⟨by simp only; omega, fun h0 => ?_⟩
        simp only [Nat.add_eq_zero_iff] at h0
        rw [mayBeEmpty, hempty h0.1, hempty' h0.2]
        rfl
  | either p q ihp ihq =>
    rw [run] at hm
    rw [mayBeEmpty, Bool.or_eq_true]
    split at hm
    · rename_i m' hm'
      rw [Option.some.injEq] at hm
      subst hm
      exact (ihp h hm').imp_right fun he h0 => .inl (he h0)
    · exact (ihq h hm).imp_right fun he h0 => .inr (he h0)
  | optional p ih =>
    rw [run, Option.some.injEq] at hm
    subst hm
    refine ⟨?_, fun _ => rfl⟩
    cases hp : p.run places with
    | none => exact Nat.zero_le _
    | some m => exact (ih h hp).1
  | many p ih =>
    rw [run, Option.some.injEq] at hm
    subst hm
    exact ⟨repeated_bounds places h fun ds qs m hq hrun => (ih hq hrun).1, fun _ => rfl⟩
  | absent p _ =>
    rw [run] at hm
    split at hm
    · simp at hm
    · rw [Option.some.injEq] at hm
      subst hm
      exact ⟨Nat.zero_le _, fun _ => rfl⟩

/-! ## Stored results -/

theorem find_cons (r q : Rule) (result : Thunk (Option Matched)) (rs : Results) :
    Results.find ((q, result) :: rs) r = if r = q then result.get else rs.find r := by
  rw [Results.find, List.lookup_cons]
  by_cases h : r = q
  · simp [h]
  · rw [beq_false_of_ne h, if_neg h, Results.find]

/-- A place that stores the results of these rules. -/
def stored (rest : List Char) (later : List Place) (rs : List Rule) : Place :=
  ⟨rest, Thunk.mk fun _ => resultsOf rest later rs⟩

theorem lookup_stored (r : Rule) (rest : List Char) (later : List Place) (rs : List Rule) :
    lookup r (stored rest later rs :: later) = (resultsOf rest later rs).find r := rfl

theorem find_resultsOf_cons (r q : Rule) (rest : List Char) (later : List Place) (qs : List Rule) :
    (resultsOf rest later (q :: qs)).find r
      = if r = q then q.run (stored rest later qs :: later) else (resultsOf rest later qs).find r := by
  rw [resultsOf, find_cons]
  rfl

theorem Rule.run_bounds (r : Rule) {cs : List Char} {places : List Place} (h : Laid cs places)
    {m : Matched} (hm : r.run places = some m) :
    m.length ≤ cs.length ∧ (m.length = 0 → r.mayBeEmpty = true) := by
  obtain ⟨m', hm', rfl⟩ := Option.map_eq_some_iff.1 hm
  rw [← r.mayBeEmpty_pattern]
  exact r.pattern.run_bounds (m := m') h hm'

theorem laid_last (rs : List Rule) : Laid [] [stored [] [] rs] := by
  induction rs with
  | nil => exact .last fun r m hm => by simp [resultsOf, Results.find, Thunk.get] at hm
  | cons q qs ih =>
    refine .last fun r m hm => ?_
    change (resultsOf [] [] (q :: qs)).find r = some m at hm
    rw [find_resultsOf_cons] at hm
    have hbounds : m.length ≤ 0 ∧ (m.length = 0 → r.mayBeEmpty = true) := by
      split at hm
      · rename_i h
        rw [h]
        exact q.run_bounds ih hm
      · exact ih.lookup_bounds hm
    have h0 : m.length = 0 := Nat.le_zero.1 hbounds.1
    exact ⟨h0, hbounds.2 h0⟩

theorem laid_front {cs : List Char} {later : List Place} (h : Laid cs later) (c : Char)
    (rs : List Rule) : Laid (c :: cs) (stored (c :: cs) later rs :: later) := by
  induction rs with
  | nil => exact .front (fun r m hm => by simp [resultsOf, Results.find, Thunk.get] at hm) h
  | cons q qs ih =>
    refine .front (fun r m hm => ?_) h
    change (resultsOf (c :: cs) later (q :: qs)).find r = some m at hm
    rw [find_resultsOf_cons] at hm
    split at hm
    · rename_i h
      rw [h]
      exact q.run_bounds ih hm
    · exact ih.lookup_bounds hm

/-- The places of a text belong to it. -/
theorem laid_placesOf (cs : List Char) : Laid cs (placesOf cs) := by
  induction cs with
  | nil => exact laid_last Rule.downward
  | cons c cs ih => exact laid_front ih c Rule.downward

/-! ## Results that agree -/

/-- Where the two places in front store the same results of the rules that a pattern asks for first,
the pattern matches alike. -/
theorem Pattern.run_congr (p : Pattern) {cs : List Char} {a b : Place} {later : List Place}
    (ha : Laid cs (a :: later)) (hb : Laid cs (b :: later))
    (h : ∀ r ∈ p.firstRules, lookup r (a :: later) = lookup r (b :: later)) :
    p.run (a :: later) = p.run (b :: later) := by
  have hrest : restOf (a :: later) = restOf (b :: later) := by rw [ha.restOf_eq, hb.restOf_eq]
  induction p with
  | text w => rw [run, run, hrest]
  | token t => simp only [run, hrest]
  | rule r => exact h r (by simp [firstRules])
  | drop p ih => rw [run, run, ih h]
  | empty => rfl
  | both p q ihp ihq =>
    rw [run, run, ihp fun r hr => h r (by simp [firstRules, hr])]
    cases hp : p.run (b :: later) with
    | none => rfl
    | some first =>
      obtain ⟨-, hempty⟩ := p.run_bounds hb hp
      have hq : q.run ((a :: later).drop first.length) = q.run ((b :: later).drop first.length) := by
        cases hn : first.length with
        | zero => exact ihq fun r hr => h r (by simp [firstRules, hempty hn, hr])
        | succ n => rfl
      simp only [hq]
  | either p q ihp ihq =>
    rw [run, run, ihp fun r hr => h r (by simp [firstRules, hr]),
      ihq fun r hr => h r (by simp [firstRules, hr])]
  | optional p ih => rw [run, run, ih h]
  | many p ih =>
    rw [run, run, repeated, repeated, ih h]
    rfl
  | absent p ih => rw [run, run, ih h]

/-- A rule stores what it matches when it sees only the rules behind it. -/
theorem find_resultsOf (r : Rule) (rest : List Char) (later : List Place) {rs : List Rule}
    (hr : r ∈ rs) : (resultsOf rest later rs).find r
      = r.run (stored rest later (rulesBehind r rs) :: later) := by
  induction rs with
  | nil => simp at hr
  | cons q qs ih =>
    rw [find_resultsOf_cons, rulesBehind]
    by_cases h : r = q
    · rw [if_pos h, if_pos h.symm, h]
    · rw [if_neg h, if_neg (Ne.symm h)]
      exact ih (by simpa [h] using hr)

/-- The rules behind a rule store the same without the others. -/
theorem find_rulesBehind {q r : Rule} (rest : List Char) (later : List Place) {rs : List Rule}
    (hnodup : rs.Nodup) (hq : q ∈ rulesBehind r rs) :
    (resultsOf rest later (rulesBehind r rs)).find q = (resultsOf rest later rs).find q := by
  induction rs with
  | nil => rfl
  | cons s ss ih =>
    obtain ⟨hs, hnodup⟩ := List.nodup_cons.1 hnodup
    rw [rulesBehind] at hq ⊢
    split
    · rename_i h
      rw [if_pos h] at hq
      rw [find_resultsOf_cons, if_neg fun he : q = s => hs (he ▸ hq)]
    · rename_i h
      rw [if_neg h] at hq
      have hmem : q ∈ ss := mem_of_mem_rulesBehind hq
      rw [find_resultsOf_cons, if_neg fun he : q = s => hs (he ▸ hmem), ih hnodup hq]
where
  mem_of_mem_rulesBehind {q r : Rule} {rs : List Rule} (h : q ∈ rulesBehind r rs) : q ∈ rs := by
    induction rs with
    | nil => exact h
    | cons s ss ih =>
      rw [rulesBehind] at h
      split at h
      · exact List.mem_cons_of_mem _ h
      · exact List.mem_cons_of_mem _ (ih h)

theorem placesOf_eq (cs : List Char) :
    placesOf cs = stored cs (placesOf cs).tail Rule.downward :: (placesOf cs).tail := by
  cases cs <;> rfl

theorem laid_stored (cs : List Char) (rs : List Rule) :
    Laid cs (stored cs (placesOf cs).tail rs :: (placesOf cs).tail) := by
  cases cs with
  | nil => exact laid_last rs
  | cons c cs => exact laid_front (laid_placesOf cs) c rs

/-- At the places of a text a rule matches what its pattern matches. -/
theorem lookup_placesOf (r : Rule) (cs : List Char) :
    lookup r (placesOf cs) = r.run (placesOf cs) := by
  rw [placesOf_eq, lookup_stored, find_resultsOf r _ _ r.mem_downward, Rule.run, Rule.run]
  rw [r.pattern.run_congr (laid_stored cs _) (laid_stored cs Rule.downward)]
  · rfl
  · intro q hq
    exact find_rulesBehind _ _ Rule.nodup_downward (Rule.firstRules_behind hq)

theorem drop_placesOf {cs : List Char} {n : Nat} (h : n ≤ cs.length) :
    (placesOf cs).drop n = placesOf (cs.drop n) := by
  induction cs generalizing n with
  | nil =>
    obtain rfl : n = 0 := by simpa using h
    rfl
  | cons c cs ih =>
    cases n with
    | zero => rfl
    | succ n => exact ih (by simpa using h)

/-! ## The equations of matching -/

namespace Pattern

variable {p q : Pattern} {cs : List Char}

/-- At the places of a text a pattern is matched by its form. -/
theorem match?_def (p : Pattern) (cs : List Char) : p.match? cs = p.run (placesOf cs) := rfl

theorem match?_both (p q : Pattern) (cs : List Char) : (both p q).match? cs
    = match p.match? cs with
      | none => none
      | some first =>
        match q.run ((placesOf cs).drop first.length) with
        | none => none
        | some second => some ⟨first.length + second.length, first.trees ++ second.trees⟩ := rfl

theorem match?_either (p q : Pattern) (cs : List Char) : (either p q).match? cs
    = match p.match? cs with
      | some m => some m
      | none => q.match? cs := rfl

theorem match?_absent (p : Pattern) (cs : List Char) : (absent p).match? cs
    = match p.match? cs with
      | some _ => none
      | none => some ⟨0, []⟩ := rfl

theorem match?_many (p : Pattern) (cs : List Char) : (many p).match? cs
    = some (repeated p.run (placesOf cs) (placesOf cs)) := rfl

theorem match?_le {m : Matched} (h : p.match? cs = some m) : m.length ≤ cs.length :=
  (p.run_bounds (laid_placesOf cs) h).1

theorem match?_pos {m : Matched} (hp : p.mayBeEmpty = false) (h : p.match? cs = some m) :
    0 < m.length := by
  refine Nat.pos_of_ne_zero fun h0 => ?_
  rw [(p.run_bounds (laid_placesOf cs) h).2 h0] at hp
  cases hp

theorem match?_text (w cs : List Char) : (text w).match? cs = (spelled? w cs).map (⟨·, []⟩) :=
  congrArg (fun rest => (spelled? w rest).map fun n => Matched.mk n [])
    (laid_placesOf cs).restOf_eq

theorem match?_token (t : Token) (cs : List Char) :
    (token t).match? cs = (t.length? cs).map fun n => ⟨n, [.leaf t cs n]⟩ :=
  congrArg (fun rest => (t.length? rest).map fun n => Matched.mk n [.leaf t rest n])
    (laid_placesOf cs).restOf_eq

/-- A rule matches what its pattern matches. -/
theorem match?_rule (r : Rule) (cs : List Char) : (rule r).match? cs
    = (r.pattern.match? cs).map fun m => ⟨m.length, [.node r cs m.length m.trees]⟩ := by
  have hrun : (rule r).match? cs = r.run (placesOf cs) := lookup_placesOf r cs
  rw [hrun]
  exact congrArg (fun rest => (r.pattern.match? cs).map fun m =>
    Matched.mk m.length [.node r rest m.length m.trees]) (laid_placesOf cs).restOf_eq

theorem match?_drop (p : Pattern) (cs : List Char) :
    (drop p).match? cs = (p.match? cs).map fun m => ⟨m.length, []⟩ := rfl

theorem match?_both_of_none (h : p.match? cs = none) : (both p q).match? cs = none := by
  rw [match?_both, h]

theorem match?_both_of_some {m : Matched} (h : p.match? cs = some m) : (both p q).match? cs
    = (q.match? (cs.drop m.length)).map fun m' =>
        ⟨m.length + m'.length, m.trees ++ m'.trees⟩ := by
  rw [match?_both, h]
  simp only
  rw [drop_placesOf (match?_le h), ← match?_def]
  cases q.match? (cs.drop m.length) <;> rfl

theorem exists_of_match?_both {m : Matched} (h : (both p q).match? cs = some m) :
    ∃ first second, p.match? cs = some first ∧ q.match? (cs.drop first.length) = some second
      ∧ m = ⟨first.length + second.length, first.trees ++ second.trees⟩ := by
  cases hp : p.match? cs with
  | none =>
    rw [match?_both_of_none hp] at h
    cases h
  | some first =>
    rw [match?_both_of_some hp, Option.map_eq_some_iff] at h
    obtain ⟨second, hsecond, rfl⟩ := h
    exact ⟨first, second, rfl, hsecond, rfl⟩

theorem match?_layout (cs : List Char) : layout.match? cs = some ⟨layoutLength cs, []⟩ := by
  rw [layout, match?_drop, match?_token]
  rfl

theorem match?_either_of_some {m : Matched} (h : p.match? cs = some m) :
    (either p q).match? cs = some m := by
  rw [match?_either, h]

theorem match?_either_of_none (h : p.match? cs = none) : (either p q).match? cs = q.match? cs := by
  rw [match?_either, h]

theorem match?_absent_of_some {m : Matched} (h : p.match? cs = some m) :
    (absent p).match? cs = none := by
  rw [match?_absent, h]

theorem match?_absent_of_none (h : p.match? cs = none) :
    (absent p).match? cs = some ⟨0, []⟩ := by
  rw [match?_absent, h]

/-- Fuel that is as long as the places that are left is enough. -/
theorem repeated_fuel (p : Pattern) {fuel fuel' : List Place} {cs : List Char}
    (h : cs.length < fuel.length) (h' : cs.length < fuel'.length) :
    repeated p.run fuel (placesOf cs) = repeated p.run fuel' (placesOf cs) := by
  induction fuel generalizing fuel' cs with
  | nil => simp at h
  | cons _ fuel ih =>
    cases fuel' with
    | nil => simp at h'
    | cons _ fuel' =>
      rw [repeated, repeated]
      split
      · rename_i n trees hn
        have hle : n + 1 ≤ cs.length := (p.run_bounds (laid_placesOf cs) hn).1
        have hlen : (cs.drop (n + 1)).length < cs.length := by
          rw [List.length_drop]
          omega
        rw [List.length_cons] at h h'
        have hdrop : (placesOf cs).drop (n + 1) = placesOf (cs.drop (n + 1)) := drop_placesOf hle
        rw [hdrop, ih (Nat.lt_of_lt_of_le hlen (Nat.lt_succ_iff.1 h))
          (Nat.lt_of_lt_of_le hlen (Nat.lt_succ_iff.1 h'))]
      · rfl

theorem match?_many_of_stop (h : ∀ m, p.match? cs = some m → m.length = 0) :
    (many p).match? cs = some ⟨0, []⟩ := by
  rw [match?_many]
  cases hplaces : placesOf cs with
  | nil => rfl
  | cons a later =>
    rw [repeated, ← hplaces]
    split
    · rename_i n trees hn
      exact absurd (h _ hn) (Nat.succ_ne_zero n)
    · rfl

theorem match?_many_of_some {m : Matched} (h : p.match? cs = some m) (hpos : 0 < m.length) :
    (many p).match? cs = ((many p).match? (cs.drop m.length)).map fun m' =>
      ⟨m.length + m'.length, m.trees ++ m'.trees⟩ := by
  have hle := match?_le h
  obtain ⟨n, trees⟩ := m
  cases n with
  | zero => exact absurd hpos (Nat.lt_irrefl 0)
  | succ k =>
    have hdrop : (placesOf cs).drop (k + 1) = placesOf (cs.drop (k + 1)) := drop_placesOf hle
    have hlen := (laid_placesOf cs).length_eq
    have hrest : (cs.drop (k + 1)).length < cs.length := by
      rw [List.length_drop]
      exact Nat.sub_lt (Nat.lt_of_lt_of_le (Nat.succ_pos k) hle) (Nat.succ_pos k)
    rw [match?_many, match?_many, Option.map_some]
    rw [match?_def] at h
    cases hplaces : placesOf cs with
    | nil => simp [hplaces] at hlen
    | cons a later =>
      rw [repeated, ← hplaces, h]
      simp only [hdrop]
      rw [hplaces, List.length_cons] at hlen
      have hfuel : repeated p.run later (placesOf (cs.drop (k + 1)))
          = repeated p.run (placesOf (cs.drop (k + 1))) (placesOf (cs.drop (k + 1))) := by
        refine repeated_fuel p (Nat.succ.inj hlen ▸ hrest) ?_
        rw [(laid_placesOf _).length_eq]
        exact Nat.lt_succ_self _
      rw [hfuel]

end Pattern

end LoopBound.Grammar
