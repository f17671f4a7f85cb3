import LoopBound.Proofs.Grammar.Completion
import LoopBound.Proofs.Grammar.Skips

/-!
# What a match keeps

A match seen from the texts at its two ends, with the trees that it keeps between them:
`p.Takes cs ts rest`. The trees of a sequence are those of its pieces, each of which begins where the
one in front of it ends, so a match is taken apart from left to right.

In the match of a whole text every tree of a rule is again such a match (`takes_of_subtree`).
-/

namespace LoopBound.Grammar

/-- The text behind the match. -/
def Tree.rest (t : Tree) : List Char :=
  t.source.drop t.length

namespace Pattern

/-- The pattern matches at the front of the text, keeps the trees and leaves `rest`. -/
def Takes (p : Pattern) (cs : List Char) (ts : List Tree) (rest : List Char) : Prop :=
  ∃ m, p.match? cs = some m ∧ m.trees = ts ∧ cs.drop m.length = rest

variable {p q : Pattern} {cs rest : List Char} {ts : List Tree}

theorem Takes.ends (h : p.Takes cs ts rest) : p.Ends cs rest := by
  obtain ⟨m, hm, -, hrest⟩ := h
  exact ⟨m, hm, hrest⟩

theorem Takes.suffix (h : p.Takes cs ts rest) : rest <:+ cs :=
  h.ends.suffix

/-! ## Texts, tokens and rules -/

theorem takes_text {w : List Char} (h : (text w).Takes cs ts rest) : ts = [] ∧ cs = w ++ rest := by
  refine ⟨?_, ends_text.1 h.ends⟩
  obtain ⟨m, hm, rfl, -⟩ := h
  rw [match?_text, Option.map_eq_some_iff] at hm
  obtain ⟨n, -, rfl⟩ := hm
  rfl

theorem takes_word {s : String} (h : (word s).Takes cs ts rest) :
    ts = [] ∧ cs = s.toList ++ rest :=
  takes_text h

theorem takes_token {t : Token} (h : (token t).Takes cs ts rest) :
    ∃ n, t.length? cs = some n ∧ ts = [.leaf t cs n] ∧ cs.drop n = rest := by
  obtain ⟨m, hm, rfl, rfl⟩ := h
  rw [match?_token, Option.map_eq_some_iff] at hm
  obtain ⟨n, hn, rfl⟩ := hm
  exact ⟨n, hn, rfl, rfl⟩

theorem takes_rule {r : Rule} (h : (rule r).Takes cs ts rest) :
    ∃ n us, ts = [.node r cs n us] ∧ r.pattern.Takes cs us rest
      ∧ rest = (Tree.node r cs n us).rest := by
  obtain ⟨m, hm, rfl, rfl⟩ := h
  rw [match?_rule, Option.map_eq_some_iff] at hm
  obtain ⟨m', hm', rfl⟩ := hm
  exact ⟨m'.length, m'.trees, rfl, ⟨m', hm', rfl, rfl⟩, rfl⟩

theorem takes_drop (h : (drop p).Takes cs ts rest) : ts = [] ∧ p.Ends cs rest := by
  refine ⟨?_, ends_drop.1 h.ends⟩
  obtain ⟨m, hm, rfl, -⟩ := h
  rw [match?_drop, Option.map_eq_some_iff] at hm
  obtain ⟨n, -, rfl⟩ := hm
  rfl

theorem takes_layout (h : layout.Takes cs ts rest) : ts = [] ∧ skip cs = rest :=
  ⟨(takes_drop h).1, ends_layout.1 h.ends⟩

theorem takes_sameLine (h : sameLine.Takes cs ts rest) : ts = [] ∧ skipLine cs = rest :=
  ⟨(takes_drop h).1, ends_sameLine.1 h.ends⟩

theorem takes_keyword {k : Keyword} (h : (keyword k).Takes cs ts rest) :
    ts = [] ∧ cs = k.spelling.toList ++ rest :=
  ⟨(takes_drop h).1, (ends_keyword.1 h.ends).1⟩

/-! ## Combinations -/

theorem takes_both (h : (both p q).Takes cs ts rest) :
    ∃ us vs mid, ts = us ++ vs ∧ p.Takes cs us mid ∧ q.Takes mid vs rest := by
  obtain ⟨m, hm, rfl, rfl⟩ := h
  obtain ⟨first, second, hfirst, hsecond, rfl⟩ := exists_of_match?_both hm
  exact ⟨_, _, _, rfl, ⟨first, hfirst, rfl, rfl⟩, second, hsecond, rfl, by rw [List.drop_drop]⟩

theorem takes_either (h : (either p q).Takes cs ts rest) :
    p.Takes cs ts rest ∨ q.Takes cs ts rest := by
  obtain ⟨m, hm, rfl, rfl⟩ := h
  cases hp : p.match? cs with
  | none =>
    rw [match?_either_of_none hp] at hm
    exact .inr ⟨m, hm, rfl, rfl⟩
  | some m' =>
    rw [match?_either_of_some hp] at hm
    exact .inl ⟨m, hp ▸ hm, rfl, rfl⟩

theorem takes_optional (h : (optional p).Takes cs ts rest) :
    p.Takes cs ts rest ∨ ts = [] ∧ cs = rest := by
  obtain ⟨m, hm, rfl, rfl⟩ := h
  rw [match?_optional, Option.some.injEq] at hm
  cases hp : p.match? cs with
  | none =>
    rw [hp] at hm
    subst hm
    exact .inr ⟨rfl, rfl⟩
  | some m' =>
    rw [hp] at hm
    subst hm
    exact .inl ⟨_, hp, rfl, rfl⟩

theorem takes_absent (h : (absent p).Takes cs ts rest) : ts = [] ∧ cs = rest := by
  refine ⟨?_, (ends_absent.1 h.ends).2⟩
  obtain ⟨m, hm, rfl, -⟩ := h
  cases hp : p.match? cs with
  | none =>
    rw [match?_absent_of_none hp, Option.some.injEq] at hm
    rw [← hm]
  | some m' =>
    rw [match?_absent_of_some hp] at hm
    cases hm

/-! ## What stands in front of a pattern -/

theorem takes_layout_both (h : (both layout p).Takes cs ts rest) : p.Takes (skip cs) ts rest := by
  obtain ⟨us, vs, mid, rfl, hlayout, hp⟩ := takes_both h
  obtain ⟨rfl, rfl⟩ := takes_layout hlayout
  exact hp

theorem takes_sameLine_both (h : (both sameLine p).Takes cs ts rest) :
    p.Takes (skipLine cs) ts rest := by
  obtain ⟨us, vs, mid, rfl, hline, hp⟩ := takes_both h
  obtain ⟨rfl, rfl⟩ := takes_sameLine hline
  exact hp

theorem takes_keyword_both {k : Keyword} (h : (both (keyword k) p).Takes cs ts rest) :
    ∃ mid, cs = k.spelling.toList ++ mid ∧ p.Takes mid ts rest := by
  obtain ⟨us, vs, mid, rfl, hword, hp⟩ := takes_both h
  obtain ⟨rfl, hcs⟩ := takes_keyword hword
  exact ⟨mid, hcs, hp⟩

theorem takes_word_both {s : String} (h : (both (word s) p).Takes cs ts rest) :
    ∃ mid, cs = s.toList ++ mid ∧ p.Takes mid ts rest := by
  obtain ⟨us, vs, mid, rfl, hword, hp⟩ := takes_both h
  obtain ⟨rfl, hcs⟩ := takes_word hword
  exact ⟨mid, hcs, hp⟩

theorem takes_rule_both {r : Rule} (h : (both (rule r) p).Takes cs ts rest) :
    ∃ n us vs, ts = .node r cs n us :: vs
      ∧ r.pattern.Takes cs us (Tree.node r cs n us).rest
      ∧ p.Takes (Tree.node r cs n us).rest vs rest := by
  obtain ⟨us, vs, mid, rfl, hrule, hp⟩ := takes_both h
  obtain ⟨n, us, rfl, hus, rfl⟩ := takes_rule hrule
  exact ⟨n, us, vs, rfl, hus, hp⟩

theorem takes_optional_both (h : (both (optional p) q).Takes cs ts rest) :
    q.Takes cs ts rest ∨ ∃ us vs mid, ts = us ++ vs ∧ p.Takes cs us mid ∧ q.Takes mid vs rest := by
  obtain ⟨us, vs, mid, rfl, hp, hq⟩ := takes_both h
  rcases takes_optional hp with hp | ⟨rfl, rfl⟩
  · exact .inr ⟨us, vs, mid, rfl, hp, hq⟩
  · exact .inl hq

end Pattern

open Pattern

/-! ## Trees within a match -/

mutual

/-- What holds of a tree as soon as it holds of the trees right below holds of every tree. -/
theorem Tree.induction_trees {P : Tree → Prop} (leaf : ∀ t source n, P (.leaf t source n))
    (node : ∀ r source n ts, (∀ t ∈ ts, P t) → P (.node r source n ts)) : ∀ t : Tree, P t
  | .leaf t source n => leaf t source n
  | .node r source n ts => node r source n ts (Tree.forall_of_trees leaf node ts)

theorem Tree.forall_of_trees {P : Tree → Prop} (leaf : ∀ t source n, P (.leaf t source n))
    (node : ∀ r source n ts, (∀ t ∈ ts, P t) → P (.node r source n ts)) :
    ∀ ts : List Tree, ∀ t ∈ ts, P t
  | [] => fun _ ht => absurd ht List.not_mem_nil
  | t :: ts => List.forall_mem_cons.2
    ⟨Tree.induction_trees leaf node t, Tree.forall_of_trees leaf node ts⟩

end

/-- Every tree of a rule is the match of the rule's pattern where it begins. -/
def Tree.Matched (t : Tree) : Prop :=
  ∀ r source n ts, .node r source n ts ∈ t.subtrees →
    r.pattern.Takes source ts (Tree.node r source n ts).rest

theorem Tree.Matched.takes {r : Rule} {source : List Char} {n : Nat} {ts : List Tree}
    (h : (Tree.node r source n ts).Matched) :
    r.pattern.Takes source ts (Tree.node r source n ts).rest :=
  h r source n ts (Tree.mem_subtrees_self _)

theorem Tree.Matched.of_mem {t : Tree} {r : Rule} {source : List Char} {n : Nat} {ts : List Tree}
    (h : (Tree.node r source n ts).Matched) (ht : t ∈ ts) : t.Matched :=
  fun q source' n' us hus =>
    h q source' n' us (List.mem_cons_of_mem _ (Tree.mem_subtreesOf.2 ⟨t, ht, hus⟩))

/-- What a match keeps is made of matches that begin in the text. -/
theorem takes_of_subtree {p : Pattern} (hp : p.Advances) {cs rest : List Char} {ts : List Tree}
    (h : p.Takes cs ts rest) : ∀ t ∈ ts, t.Matched ∧ ∀ d ∈ t.subtrees, d.source <:+ cs := by
  obtain ⟨m, hm, rfl, -⟩ := h
  have hcompletes := completes_of_yields (yields_match? hp cs) hm
  have hmem : ∀ t ∈ m.trees, ∀ d ∈ t.subtrees, d ∈ Tree.completed.completedIn m.trees :=
    fun t ht d hd => (Tree.mem_completedIn _).2 (Tree.mem_subtreesOf.2 ⟨t, ht, hd⟩)
  refine fun t ht => ⟨fun r source n us hus => ?_, fun d hd => hcompletes.starts d (hmem t ht d hd)⟩
  have hmatch := hcompletes.matched r source n us (hmem t ht _ hus)
  rw [match?_rule, Option.map_eq_some_iff] at hmatch
  obtain ⟨m', hm', he⟩ := hmatch
  obtain ⟨rfl, htree⟩ := Matched.mk.inj he
  obtain ⟨-, -, -, rfl⟩ := Tree.node.inj (List.cons.inj htree).1
  exact ⟨m', hm', rfl, rfl⟩

end LoopBound.Grammar
