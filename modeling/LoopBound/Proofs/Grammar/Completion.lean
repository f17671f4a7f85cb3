import LoopBound.Proofs.Grammar.Derives
import LoopBound.Proofs.Grammar.Yields

/-!
# The order of completion

The trees of a match, listed as they are completed: a tree stands behind all trees within it, and
behind all trees to its left. Measured in the text, that is the order in which the matches end
(`completes_of_yields`). Where two end together, one is within the other or the later one is empty.

Every tree listed is itself the match of its rule where it begins, so what was tried and given up
leaves no trace in the list.
-/

namespace LoopBound.Grammar

namespace Tree

/-! ## Inner before outer, earlier before later -/

/-- A tree and all trees within it, inner before outer and earlier before later. -/
def completed : Tree → List Tree
  | .leaf t source n => [.leaf t source n]
  | .node r source n ts => completedIn ts ++ [.node r source n ts]
where
  completedIn : List Tree → List Tree
    | [] => []
    | t :: ts => completed t ++ completedIn ts

theorem completedIn_append (ts us : List Tree) :
    completed.completedIn (ts ++ us) = completed.completedIn ts ++ completed.completedIn us := by
  induction ts with
  | nil => rfl
  | cons t ts ih =>
    rw [List.cons_append, completed.completedIn, ih, completed.completedIn, List.append_assoc]

mutual

/-- The trees within a tree, in another order. -/
theorem mem_completed {d : Tree} : ∀ t : Tree, d ∈ t.completed ↔ d ∈ t.subtrees
  | .leaf .. => by rw [completed, subtrees]
  | .node r source n ts => by
    rw [completed, subtrees, List.mem_append, List.mem_singleton, List.mem_cons,
      mem_completedIn ts, Or.comm]

theorem mem_completedIn {d : Tree} :
    ∀ ts : List Tree, d ∈ completed.completedIn ts ↔ d ∈ subtrees.subtreesOf ts
  | [] => by rw [completed.completedIn, subtrees.subtreesOf]
  | t :: ts => by
    rw [completed.completedIn, subtrees.subtreesOf, List.mem_append, List.mem_append,
      mem_completed t, mem_completedIn ts]

end

/-! ## Ends -/

/-- The number of characters behind the match. -/
def behind (t : Tree) : Nat :=
  t.source.length - t.length

/-- The match ends before the other one, or together with it and within it. -/
def EndsBefore (t u : Tree) : Prop :=
  u.behind < t.behind ∨ u.behind = t.behind ∧ t ∈ u.subtrees

end Tree

open Tree

/-- The trees of a match lie in the text that it takes, and they are listed as they end. -/
structure Completes (cs : List Char) (m : Matched) : Prop where
  /-- No more is taken than there is. -/
  fits : m.length ≤ cs.length
  /-- Every tree begins in the text. -/
  starts : ∀ d ∈ completed.completedIn m.trees, d.source <:+ cs
  /-- Every tree ends within the match. -/
  ends : ∀ d ∈ completed.completedIn m.trees, d.length + (cs.length - m.length) ≤ d.source.length
  /-- The tree of a rule is the match of the rule where the tree begins. -/
  matched : ∀ r source n ts, .node r source n ts ∈ completed.completedIn m.trees →
    (Pattern.rule r).match? source = some ⟨n, [.node r source n ts]⟩
  /-- The ends are in order; only an empty match may stand elsewhere with the same end. -/
  ordered : (completed.completedIn m.trees).Pairwise fun d d' => d.EndsBefore d' ∨ d'.length = 0

namespace Completes

variable {cs : List Char} {m m' : Matched}

theorem nil {n : Nat} (h : n ≤ cs.length) : Completes cs ⟨n, []⟩ where
  fits := h
  starts := by simp [completed.completedIn]
  ends := by simp [completed.completedIn]
  matched := by simp [completed.completedIn]
  ordered := by simp [completed.completedIn]

theorem leaf {t : Token} {n : Nat} (h : n ≤ cs.length) :
    Completes cs ⟨n, [.leaf t cs n]⟩ where
  fits := h
  starts := by simp [completed.completedIn, completed, Tree.source]
  ends := by
    simp only [completed.completedIn, completed, List.append_nil, List.forall_mem_singleton]
    show n + (cs.length - n) ≤ cs.length
    omega
  matched := by simp [completed.completedIn, completed]
  ordered := by simp [completed.completedIn, completed]

theorem append (h : Completes cs m) (h' : Completes (cs.drop m.length) m') :
    Completes cs ⟨m.length + m'.length, m.trees ++ m'.trees⟩ where
  fits := by
    have hfits := h.fits
    have hfits' := h'.fits
    rw [List.length_drop] at hfits'
    show m.length + m'.length ≤ cs.length
    omega
  starts d hd := by
    rw [completedIn_append, List.mem_append] at hd
    rcases hd with hd | hd
    · exact h.starts d hd
    · exact (h'.starts d hd).trans (List.drop_suffix _ _)
  ends d hd := by
    rw [completedIn_append, List.mem_append] at hd
    rcases hd with hd | hd
    · have hends := h.ends d hd
      show d.length + (cs.length - (m.length + m'.length)) ≤ d.source.length
      omega
    · have hends := h'.ends d hd
      rw [List.length_drop] at hends
      show d.length + (cs.length - (m.length + m'.length)) ≤ d.source.length
      omega
  matched r source n ts hd := by
    rw [completedIn_append, List.mem_append] at hd
    rcases hd with hd | hd
    · exact h.matched r source n ts hd
    · exact h'.matched r source n ts hd
  ordered := by
    rw [completedIn_append, List.pairwise_append]
    refine ⟨h.ordered, h'.ordered, fun d hd d' hd' => ?_⟩
    -- the second match begins where the first one ends
    have hends := h.ends d hd
    have hends' := h'.ends d' hd'
    have hstarts := (h'.starts d' hd').length_le
    rw [List.length_drop] at hstarts
    rcases Nat.eq_zero_or_pos d'.length with hempty | hpos
    · exact .inr hempty
    · refine .inl (.inl ?_)
      rw [Tree.behind, Tree.behind]
      omega

theorem node {r : Rule} (h : Completes cs m)
    (hmatch : (Pattern.rule r).match? cs
      = some ⟨m.length, [.node r cs m.length m.trees]⟩) :
    Completes cs ⟨m.length, [.node r cs m.length m.trees]⟩ := by
  have hlist : completed.completedIn [.node r cs m.length m.trees]
      = completed.completedIn m.trees ++ [.node r cs m.length m.trees] := by
    rw [completed.completedIn, completed.completedIn, completed, List.append_nil]
  have hbehind : (Tree.node r cs m.length m.trees).behind = cs.length - m.length := rfl
  refine ⟨h.fits, ?_, ?_, ?_, ?_⟩
  · rw [hlist, List.forall_mem_append, List.forall_mem_singleton]
    exact ⟨h.starts, List.suffix_rfl⟩
  · rw [hlist, List.forall_mem_append, List.forall_mem_singleton]
    refine ⟨h.ends, ?_⟩
    have hfits := h.fits
    show m.length + (cs.length - m.length) ≤ cs.length
    omega
  · intro q source n ts hd
    rw [hlist, List.mem_append, List.mem_singleton] at hd
    rcases hd with hd | hd
    · exact h.matched q source n ts hd
    · obtain ⟨rfl, rfl, rfl, rfl⟩ := Tree.node.inj hd
      exact hmatch
  · rw [hlist, List.pairwise_append]
    refine ⟨h.ordered, List.pairwise_singleton _ _, fun d hd d' hd' => ?_⟩
    obtain rfl := List.mem_singleton.1 hd'
    have hends := h.ends d hd
    have hwithin : d ∈ (Tree.node r cs m.length m.trees).subtrees :=
      List.mem_cons_of_mem _ ((mem_completedIn _).1 hd)
    have hle : (Tree.node r cs m.length m.trees).behind ≤ d.behind := by
      rw [hbehind, Tree.behind]
      omega
    rcases Nat.lt_or_eq_of_le hle with hlt | heq
    · exact .inl (.inl hlt)
    · exact .inl (.inr ⟨heq, hwithin⟩)

end Completes

/-- **The trees of a match are listed as they end.** -/
theorem completes_of_yields {p : Pattern} {cs : List Char} {o : Option Matched} (h : Yields p cs o)
    {m : Matched} (ho : o = some m) : Completes cs m := by
  induction h generalizing m with
  | text w cs =>
    obtain ⟨n, hn, rfl⟩ := Option.map_eq_some_iff.1 ho
    obtain ⟨hfront, rfl⟩ := spelled?_eq_some.1 hn
    exact .nil hfront.length_le
  | token t cs =>
    obtain ⟨n, hn, rfl⟩ := Option.map_eq_some_iff.1 ho
    exact .leaf (Token.length?_bounds hn).1
  | @rule r cs o h ih =>
    obtain ⟨body, rfl, rfl⟩ := Option.map_eq_some_iff.1 ho
    have hmatch := (Yields.rule h).eq_match? fun q hq => absurd hq List.not_mem_nil
    exact (ih rfl).node hmatch.symm
  | drop _ ih =>
    obtain ⟨m, rfl, rfl⟩ := Option.map_eq_some_iff.1 ho
    exact .nil (ih rfl).fits
  | empty =>
    obtain rfl := Option.some.inj ho
    exact .nil (Nat.zero_le _)
  | bothFails | present => cases ho
  | both _ _ ihp ihq =>
    obtain ⟨m', rfl, rfl⟩ := Option.map_eq_some_iff.1 ho
    exact (ihp rfl).append (ihq rfl)
  | first _ ih | second _ _ _ ih => exact ih ho
  | @optional p cs o _ ih =>
    obtain rfl := Option.some.inj ho
    cases o with
    | none => exact .nil (Nat.zero_le _)
    | some m => exact ih rfl
  | stop | absent =>
    obtain rfl := Option.some.inj ho
    exact .nil (Nat.zero_le _)
  | more _ _ ih ihmore =>
    obtain rfl := Option.some.inj ho
    exact (ih rfl).append (ihmore rfl)

end LoopBound.Grammar
