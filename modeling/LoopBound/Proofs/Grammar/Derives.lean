import LoopBound.Proofs.Grammar.Matching

/-!
# What a grammar derives

The trees that a pattern can leave behind, whatever the text was: `Derives` has one rule for each
way of building patterns, and says nothing of order, of lengths or of what was looked for ahead.
Whatever is matched is derived (`derives_match?`), so a fact about the trees of a text can be proved
by induction on a derivation, with no word about matching.

A derivation goes down into the trees: below a match of a rule stands what the pattern of the rule
derives.
-/

namespace LoopBound.Grammar

/-! ## Trees within trees -/

/-- A tree and all trees within it, outer before inner and earlier before later. -/
def Tree.subtrees : Tree → List Tree
  | .leaf t source n => [.leaf t source n]
  | .node r source n ts => .node r source n ts :: subtreesOf ts
where
  subtreesOf : List Tree → List Tree
    | [] => []
    | t :: ts => subtrees t ++ subtreesOf ts

theorem Tree.mem_subtrees_self (t : Tree) : t ∈ t.subtrees := by
  cases t <;> exact List.mem_cons_self

theorem Tree.mem_subtreesOf {d : Tree} {ts : List Tree} :
    d ∈ subtrees.subtreesOf ts ↔ ∃ t ∈ ts, d ∈ t.subtrees := by
  induction ts with
  | nil => simp [subtrees.subtreesOf]
  | cons t ts ih => simp [subtrees.subtreesOf, ih]

/-! ## Derivations -/

/-- The trees that the pattern can leave behind. -/
inductive Derives : Pattern → List Tree → Prop
  | text (word : List Char) : Derives (.text word) []
  | token {t : Token} {source : List Char} {n : Nat} (h : t.length? source = some n) :
      Derives (.token t) [.leaf t source n]
  | rule {r : Rule} {ts : List Tree} (source : List Char) (n : Nat) (h : Derives r.pattern ts) :
      Derives (.rule r) [.node r source n ts]
  | drop (p : Pattern) : Derives (.drop p) []
  | empty : Derives .empty []
  | both {p q : Pattern} {ts us : List Tree} (hp : Derives p ts) (hq : Derives q us) :
      Derives (.both p q) (ts ++ us)
  | first {p q : Pattern} {ts : List Tree} (h : Derives p ts) : Derives (.either p q) ts
  | second {p q : Pattern} {ts : List Tree} (h : Derives q ts) : Derives (.either p q) ts
  | skipped (p : Pattern) : Derives (.optional p) []
  | taken {p : Pattern} {ts : List Tree} (h : Derives p ts) : Derives (.optional p) ts
  | stop (p : Pattern) : Derives (.many p) []
  | more {p : Pattern} {ts us : List Tree} (h : Derives p ts) (hmany : Derives (.many p) us) :
      Derives (.many p) (ts ++ us)
  | absent (p : Pattern) : Derives (.absent p) []

namespace Derives

variable {p q : Pattern} {ts : List Tree}

theorem exists_of_rule {r : Rule} (h : Derives (.rule r) ts) :
    ∃ source n us, ts = [.node r source n us] ∧ Derives r.pattern us := by
  cases h with
  | rule source n h => exact ⟨source, n, _, rfl, h⟩

end Derives

/-- Below a match of a rule stands what the pattern of the rule derives. -/
theorem Derives.of_subtree {p : Pattern} {ts : List Tree} (h : Derives p ts) {t : Tree}
    (ht : t ∈ ts) {r : Rule} {source : List Char} {n : Nat} {us : List Tree}
    (hus : .node r source n us ∈ t.subtrees) : Derives r.pattern us := by
  induction h generalizing t with
  | text | drop | empty | skipped | stop | absent => simp at ht
  | token =>
    rw [List.mem_singleton] at ht
    subst ht
    simp [Tree.subtrees] at hus
  | rule _ _ hbelow ih =>
    rw [List.mem_singleton] at ht
    subst ht
    rw [Tree.subtrees, List.mem_cons, Tree.mem_subtreesOf] at hus
    rcases hus with he | ⟨t, ht, hus⟩
    · rw [Tree.node.injEq] at he
      rw [he.1, he.2.2.2]
      exact hbelow
    · exact ih ht hus
  | both _ _ ihp ihq =>
    rcases List.mem_append.1 ht with ht | ht
    · exact ihp ht hus
    · exact ihq ht hus
  | first _ ih | second _ ih | taken _ ih => exact ih ht hus
  | more _ _ ih ihmany =>
    rcases List.mem_append.1 ht with ht | ht
    · exact ih ht hus
    · exact ihmany ht hus

/-! ## Whatever is matched is derived -/

/-- Every result stored at the places is derived. -/
def Stored (places : List Place) : Prop :=
  ∀ place ∈ places, ∀ r m, place.results.get.find r = some m → Derives (.rule r) m.trees

namespace Stored

variable {places : List Place}

theorem drop (h : Stored places) (n : Nat) : Stored (places.drop n) :=
  fun place hplace => h place (List.mem_of_mem_drop hplace)

theorem derives_lookup (h : Stored places) {r : Rule} {m : Matched}
    (hm : lookup r places = some m) : Derives (.rule r) m.trees := by
  cases places with
  | nil => simp [lookup] at hm
  | cons place later => exact h place List.mem_cons_self r m hm

end Stored

theorem derives_repeated {p : Pattern} {step : List Place → Option Matched}
    (hstep : ∀ places m, Stored places → step places = some m → Derives p m.trees)
    (fuel : List Place) {places : List Place} (h : Stored places) :
    Derives (.many p) (repeated step fuel places).trees := by
  induction fuel generalizing places with
  | nil => exact .stop p
  | cons _ fuel ih =>
    rw [repeated]
    split
    · rename_i n trees hn
      exact .more (hstep places _ h hn) (ih (h.drop (n + 1)))
    · exact .stop p

/-- A match at places that store what is derived is derived. -/
theorem derives_run (p : Pattern) {places : List Place} (h : Stored places) {m : Matched}
    (hm : p.run places = some m) : Derives p m.trees := by
  induction p generalizing places m with
  | text word =>
    obtain ⟨n, -, rfl⟩ := Option.map_eq_some_iff.1 hm
    exact .text word
  | token t =>
    obtain ⟨n, hn, rfl⟩ := Option.map_eq_some_iff.1 hm
    exact .token hn
  | rule r => exact h.derives_lookup hm
  | drop p =>
    obtain ⟨n, -, rfl⟩ := Option.map_eq_some_iff.1 hm
    exact .drop p
  | empty =>
    rw [Pattern.run, Option.some.injEq] at hm
    subst hm
    exact .empty
  | both p q ihp ihq =>
    rw [Pattern.run] at hm
    split at hm
    · simp at hm
    · rename_i first hfirst
      split at hm
      · simp at hm
      · rename_i second hsecond
        rw [Option.some.injEq] at hm
        subst hm
        exact .both (ihp h hfirst) (ihq (h.drop _) hsecond)
  | either p q ihp ihq =>
    rw [Pattern.run] at hm
    split at hm
    · rename_i m' hm'
      rw [Option.some.injEq] at hm
      subst hm
      exact .first (ihp h hm')
    · exact .second (ihq h hm)
  | optional p ih =>
    rw [Pattern.run, Option.some.injEq] at hm
    subst hm
    cases hp : p.run places with
    | none => exact .skipped p
    | some m => exact .taken (ih h hp)
  | many p ih =>
    rw [Pattern.run, Option.some.injEq] at hm
    subst hm
    exact derives_repeated (fun qs m hq hrun => ih hq hrun) places h
  | absent p =>
    rw [Pattern.run] at hm
    split at hm
    · simp at hm
    · rw [Option.some.injEq] at hm
      subst hm
      exact .absent p

theorem derives_rule {r : Rule} {places : List Place} (h : Stored places) {m : Matched}
    (hm : r.run places = some m) : Derives (.rule r) m.trees := by
  obtain ⟨m', hm', rfl⟩ := Option.map_eq_some_iff.1 hm
  exact .rule _ _ (derives_run r.pattern h hm')

theorem stored_front {later : List Place} (h : Stored later) (rest : List Char) (rs : List Rule) :
    Stored (stored rest later rs :: later) := by
  induction rs with
  | nil =>
    intro place hplace r m hm
    rcases List.mem_cons.1 hplace with rfl | hplace
    · change Results.find [] r = some m at hm
      simp [Results.find] at hm
    · exact h place hplace r m hm
  | cons q qs ih =>
    intro place hplace r m hm
    rcases List.mem_cons.1 hplace with rfl | hplace
    · change (resultsOf rest later (q :: qs)).find r = some m at hm
      rw [find_resultsOf_cons] at hm
      split at hm
      · rename_i hr
        rw [hr]
        exact derives_rule ih hm
      · exact ih.derives_lookup hm
    · exact h place hplace r m hm

theorem stored_placesOf (cs : List Char) : Stored (placesOf cs) := by
  induction cs with
  | nil => exact stored_front (fun place hplace => by simp at hplace) [] Rule.downward
  | cons c cs ih => exact stored_front ih (c :: cs) Rule.downward

/-- **Whatever a pattern matches at the front of a text is derived.** -/
theorem derives_match? {p : Pattern} {cs : List Char} {m : Matched} (h : p.match? cs = some m) :
    Derives p m.trees :=
  derives_run p (stored_placesOf cs) h

/-! ## The program rule -/

/-- The program rule matches in front of any text: it may stop where it likes. -/
theorem match?_program (cs : List Char) : ∃ n source length ts,
    (Pattern.rule .program).match? cs = some ⟨n, [.node .program source length ts]⟩
      ∧ n ≤ cs.length := by
  have hlist : ((Pattern.rule .statementList).match? cs).isSome := by
    rw [Pattern.match?_rule, Option.isSome_map]
    rfl
  obtain ⟨m, hm⟩ := Option.isSome_iff_exists.1 hlist
  have hlayout : (Pattern.layout.match? (cs.drop m.length)).isSome := by
    rw [Pattern.layout, Pattern.match?_drop, Option.isSome_map, Pattern.match?_token,
      Option.isSome_map]
    rfl
  obtain ⟨m', hm'⟩ := Option.isSome_iff_exists.1 hlayout
  have hpattern : Rule.program.pattern.match? cs
      = some ⟨m.length + m'.length, m.trees ++ m'.trees⟩ := by
    show (Pattern.both (.rule .statementList) Pattern.layout).match? cs = _
    rw [Pattern.match?_both_of_some hm, hm']
    rfl
  have hprogram : (Pattern.rule .program).match? cs = some ⟨m.length + m'.length,
      [.node .program cs (m.length + m'.length) (m.trees ++ m'.trees)]⟩ := by
    rw [Pattern.match?_rule, hpattern]
    rfl
  exact ⟨_, _, _, _, hprogram, Pattern.match?_le hprogram⟩

end LoopBound.Grammar
