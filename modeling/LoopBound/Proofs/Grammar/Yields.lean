import LoopBound.Proofs.Grammar.Matching

/-!
# Matching, step by step

`Yields p cs o` says what matching the pattern in front of the text comes to, a match or none, by
the form of the pattern alone: of alternatives the first that matches, of options and repetitions as
much as there is, with no way back, and nothing taken by looking ahead. It knows of no places, no
stored results and no ranks. A derivation is finite, so what yields anything at all has an end.

Every pattern of the grammar yields exactly one outcome in front of every text (`yields_match?`,
`Yields.unique`), which is the one that is computed. For that a pattern has to *advance*: what it
repeats must take something.
-/

namespace LoopBound.Grammar

/-- What matching the pattern in front of the text comes to. -/
inductive Yields : Pattern → List Char → Option Matched → Prop
  | text (w cs : List Char) : Yields (.text w) cs ((spelled? w cs).map (⟨·, []⟩))
  | token (t : Token) (cs : List Char) :
      Yields (.token t) cs ((t.length? cs).map fun n => ⟨n, [.leaf t cs n]⟩)
  | rule {r : Rule} {cs : List Char} {o : Option Matched} (h : Yields r.pattern cs o) :
      Yields (.rule r) cs (o.map fun m => ⟨m.length, [.node r cs m.length m.trees]⟩)
  | drop {p : Pattern} {cs : List Char} {o : Option Matched} (h : Yields p cs o) :
      Yields (.drop p) cs (o.map fun m => ⟨m.length, []⟩)
  | empty (cs : List Char) : Yields .empty cs (some ⟨0, []⟩)
  | bothFails {p q : Pattern} {cs : List Char} (hp : Yields p cs none) : Yields (.both p q) cs none
  | both {p q : Pattern} {cs : List Char} {m : Matched} {o : Option Matched}
      (hp : Yields p cs (some m)) (hq : Yields q (cs.drop m.length) o) :
      Yields (.both p q) cs (o.map fun m' => ⟨m.length + m'.length, m.trees ++ m'.trees⟩)
  | first {p q : Pattern} {cs : List Char} {m : Matched} (hp : Yields p cs (some m)) :
      Yields (.either p q) cs (some m)
  | second {p q : Pattern} {cs : List Char} {o : Option Matched} (hp : Yields p cs none)
      (hq : Yields q cs o) : Yields (.either p q) cs o
  | optional {p : Pattern} {cs : List Char} {o : Option Matched} (h : Yields p cs o) :
      Yields (.optional p) cs (some (o.getD ⟨0, []⟩))
  | stop {p : Pattern} {cs : List Char} (h : Yields p cs none) :
      Yields (.many p) cs (some ⟨0, []⟩)
  | more {p : Pattern} {cs : List Char} {m m' : Matched} (h : Yields p cs (some m))
      (hmore : Yields (.many p) (cs.drop m.length) (some m')) :
      Yields (.many p) cs (some ⟨m.length + m'.length, m.trees ++ m'.trees⟩)
  | present {p : Pattern} {cs : List Char} {m : Matched} (h : Yields p cs (some m)) :
      Yields (.absent p) cs none
  | absent {p : Pattern} {cs : List Char} (h : Yields p cs none) :
      Yields (.absent p) cs (some ⟨0, []⟩)

/-- A pattern comes to one outcome at most. -/
theorem Yields.unique {p : Pattern} {cs : List Char} {o o' : Option Matched} (h : Yields p cs o)
    (h' : Yields p cs o') : o = o' := by
  induction h generalizing o' with
  | text | token | empty => cases h'; rfl
  | rule _ ih =>
    cases h' with
    | rule h' => rw [ih h']
  | drop _ ih =>
    cases h' with
    | drop h' => rw [ih h']
  | bothFails _ ih =>
    cases h' with
    | bothFails => rfl
    | both hp => cases ih hp
  | both _ _ ihp ihq =>
    cases h' with
    | bothFails hp => cases ihp hp
    | both hp hq =>
      obtain rfl := Option.some.inj (ihp hp)
      rw [ihq hq]
  | first _ ih =>
    cases h' with
    | first hp => exact ih hp
    | second hp => cases ih hp
  | second _ _ ihp ihq =>
    cases h' with
    | first hp => cases ihp hp
    | second _ hq => exact ihq hq
  | optional _ ih =>
    cases h' with
    | optional h' => rw [ih h']
  | stop _ ih =>
    cases h' with
    | stop => rfl
    | more h' => cases ih h'
  | more _ _ ih ihmore =>
    cases h' with
    | stop h' => cases ih h'
    | more h' hmore' =>
      obtain rfl := Option.some.inj (ih h')
      rw [Option.some.inj (ihmore hmore')]
  | present _ ih =>
    cases h' with
    | present => rfl
    | absent h' => cases ih h'
  | absent _ ih =>
    cases h' with
    | present h' => cases ih h'
    | absent => rfl

/-! ## Repetitions take something -/

namespace Pattern

/-- What the pattern repeats. -/
def repetitions : Pattern → List Pattern
  | text _ => []
  | token _ => []
  | rule _ => []
  | drop p => p.repetitions
  | empty => []
  | both p q => p.repetitions ++ q.repetitions
  | either p q => p.repetitions ++ q.repetitions
  | optional p => p.repetitions
  | many p => p :: p.repetitions
  | absent p => p.repetitions

/-- Whatever the pattern repeats takes something each time. -/
def Advances (p : Pattern) : Prop :=
  ∀ q ∈ p.repetitions, q.mayBeEmpty = false

namespace Advances

variable {p q : Pattern}

theorem left_both (h : (both p q).Advances) : p.Advances :=
  fun s hs => h s (List.mem_append_left _ hs)

theorem right_both (h : (both p q).Advances) : q.Advances :=
  fun s hs => h s (List.mem_append_right _ hs)

theorem left_either (h : (either p q).Advances) : p.Advances :=
  fun s hs => h s (List.mem_append_left _ hs)

theorem right_either (h : (either p q).Advances) : q.Advances :=
  fun s hs => h s (List.mem_append_right _ hs)

theorem not_mayBeEmpty (h : (many p).Advances) : p.mayBeEmpty = false :=
  h p List.mem_cons_self

theorem of_many (h : (many p).Advances) : p.Advances :=
  fun s hs => h s (List.mem_cons_of_mem _ hs)

/-- What an advancing pattern repeats advances itself. -/
theorem of_mem_repetitions (h : p.Advances) (hq : q ∈ p.repetitions) : q.Advances := by
  induction p with
  | text | token | rule | empty => cases hq
  | drop p ih | optional p ih | absent p ih => exact ih h hq
  | both p p' ih ih' =>
    rcases List.mem_append.1 hq with hq | hq
    · exact ih h.left_both hq
    · exact ih' h.right_both hq
  | either p p' ih ih' =>
    rcases List.mem_append.1 hq with hq | hq
    · exact ih h.left_either hq
    · exact ih' h.right_either hq
  | many p ih =>
    rcases List.mem_cons.1 hq with rfl | hq
    · exact h.of_many
    · exact ih h.of_many hq

end Advances

end Pattern

/-- The pattern of every rule advances. -/
theorem Rule.advances (r : Rule) : r.pattern.Advances := by
  have hall : Rule.downward.all (fun r => r.pattern.repetitions.all fun q => !q.mayBeEmpty)
      = true := by
    decide +kernel
  intro q hq
  simpa using List.all_eq_true.1 (List.all_eq_true.1 hall r r.mem_downward) q hq

/-! ## What is computed is yielded -/

/-- Where a rule has an outcome at every shorter text, and where the rules have one that the pattern
asks for first, the pattern has one. -/
theorem yields_of_rules {p : Pattern} (hp : p.Advances) {cs : List Char}
    (hshorter : ∀ ds : List Char, ds.length < cs.length →
      ∀ r, Yields (.rule r) ds ((Pattern.rule r).match? ds))
    (hhere : ∀ r ∈ p.firstRules, Yields (.rule r) cs ((Pattern.rule r).match? cs)) :
    Yields p cs (p.match? cs) := by
  induction p generalizing cs with
  | text w => rw [Pattern.match?_text]; exact .text w cs
  | token t => rw [Pattern.match?_token]; exact .token t cs
  | rule r => exact hhere r List.mem_cons_self
  | drop p ih => exact .drop (ih hp hshorter hhere)
  | empty => exact .empty cs
  | both p q ihp ihq =>
    have hfirst := ihp hp.left_both hshorter fun r hr => hhere r (List.mem_append_left _ hr)
    cases hm : p.match? cs with
    | none =>
      rw [Pattern.match?_both_of_none hm]
      exact .bothFails (hm ▸ hfirst)
    | some m =>
      rw [Pattern.match?_both_of_some hm]
      refine .both (hm ▸ hfirst) (ihq hp.right_both ?_ ?_)
      · intro ds hds
        rw [List.length_drop] at hds
        exact hshorter ds (by omega)
      · -- the second pattern stands in front of the same text only behind an empty match
        intro r hr
        cases hlen : m.length with
        | zero =>
          refine hhere r (List.mem_append_right _ ?_)
          rwa [((p.run_bounds (laid_placesOf cs) hm).2 hlen), if_pos rfl]
        | succ n =>
          have hle := Pattern.match?_le hm
          refine hshorter _ ?_ r
          rw [List.length_drop]
          omega
  | either p q ihp ihq =>
    have hfirst := ihp hp.left_either hshorter fun r hr => hhere r (List.mem_append_left _ hr)
    cases hm : p.match? cs with
    | none =>
      rw [Pattern.match?_either_of_none hm]
      exact .second (hm ▸ hfirst)
        (ihq hp.right_either hshorter fun r hr => hhere r (List.mem_append_right _ hr))
    | some m =>
      rw [Pattern.match?_either_of_some hm]
      exact .first (hm ▸ hfirst)
  | optional p ih => exact .optional (ih hp hshorter hhere)
  | many p ih =>
    -- the rounds behind the first stand in front of shorter texts
    induction hn : cs.length using Nat.strongRecOn generalizing cs with
    | ind n ihn =>
      subst hn
      have hround := ih hp.of_many hshorter hhere
      cases hm : p.match? cs with
      | none =>
        rw [Pattern.match?_many_of_stop fun m h => by rw [hm] at h; cases h]
        exact .stop (hm ▸ hround)
      | some m =>
        have hpos := Pattern.match?_pos hp.not_mayBeEmpty hm
        have hle := Pattern.match?_le hm
        have hlen : (cs.drop m.length).length < cs.length := by
          rw [List.length_drop]
          omega
        have hrest := ihn _ hlen (fun ds hds => hshorter ds (by omega))
          (fun r _ => hshorter _ hlen r) rfl
        rw [Pattern.match?_many_of_some hm hpos]
        rw [Pattern.match?_many] at hrest ⊢
        exact .more (hm ▸ hround) hrest
  | absent p ih =>
    have hbelow := ih hp hshorter hhere
    cases hm : p.match? cs with
    | none =>
      rw [Pattern.match?_absent_of_none hm]
      exact .absent (hm ▸ hbelow)
    | some m =>
      rw [Pattern.match?_absent_of_some hm]
      exact .present (hm ▸ hbelow)

/-- A rule yields what is computed: by induction on the text, and on the rank in front of one. -/
theorem yields_rule (r : Rule) (cs : List Char) :
    Yields (.rule r) cs ((Pattern.rule r).match? cs) := by
  induction hn : cs.length using Nat.strongRecOn generalizing cs r with
  | ind n ihn =>
    subst hn
    induction hk : r.rank using Nat.strongRecOn generalizing r with
    | ind k ihk =>
      subst hk
      rw [Pattern.match?_rule]
      exact .rule (yields_of_rules r.advances (fun ds hds q => ihn _ hds q ds rfl)
        fun q hq => ihk _ (Rule.rank_lt_of_mem_firstRules hq) q rfl)

/-- **A pattern yields what is computed.** -/
theorem yields_match? {p : Pattern} (hp : p.Advances) (cs : List Char) :
    Yields p cs (p.match? cs) :=
  yields_of_rules hp (fun ds _ r => yields_rule r ds) fun r _ => yields_rule r cs

/-- What is yielded is computed. -/
theorem Yields.eq_match? {p : Pattern} (hp : p.Advances) {cs : List Char} {o : Option Matched}
    (h : Yields p cs o) : o = p.match? cs :=
  h.unique (yields_match? hp cs)

end LoopBound.Grammar
