import LoopBound.Proofs.Grammar.Yields
import LoopBound.Proofs.Reading.Arranged
import LoopBound.Proofs.Reading.Formed

/-!
# Discovery order is source order

The nodes that a match stands for lie in the text that it takes, one behind the other. So in the tree
of a text no node begins before the node above it, and the loops are found in the order in which they
begin, each where its first word is written.

The proof follows the match from its smallest pieces on. What a loop holds lies behind the keyword of
its rule, which is why no loop begins where another one does.
-/

namespace LoopBound.Reading

open LoopBound.Syntax LoopBound.Grammar LoopBound.Guard
open LoopBound.Text (Position lineStarts search_lineStarts)

/-! ## Places in a text -/

/-- The position of a suffix of the text. -/
abbrev placeIn (text : List Char) : List Char → Position :=
  suffixPosition (lineStarts text) text.length

theorem placeIn_eq (text suffix : List Char) :
    placeIn text suffix = Position.ofOffset text (text.length - suffix.length : Nat) :=
  search_lineStarts (Nat.sub_le _ _)

theorem placeIn_self (text : List Char) : placeIn text text = ⟨1, 1⟩ := by
  rw [placeIn_eq, Nat.sub_self]
  rfl

theorem placeIn_drop_le (text cs : List Char) (n : Nat) :
    placeIn text cs ≤ placeIn text (cs.drop n) := by
  rw [placeIn_eq, placeIn_eq, List.length_drop]
  exact Position.ofOffset_le (by omega) (Nat.sub_le _ _)

theorem placeIn_lt_drop {text cs : List Char} (hcs : cs <:+ text) {n : Nat} (hpos : 0 < n)
    (hle : n ≤ cs.length) : placeIn text cs < placeIn text (cs.drop n) := by
  have hlen := hcs.length_le
  rw [placeIn_eq, placeIn_eq, List.length_drop]
  exact Position.ofOffset_lt (by omega) (Nat.sub_le _ _)

/-! ## The first word of a loop -/

/-- The keyword that a loop begins with. -/
def firstKeyword : LoopKind → Keyword
  | .for | .forIn | .forOf | .forAwaitOf => .for
  | .while => .while
  | .doWhile => .do

/-- The text has the first word of the loop where the loop begins. -/
def WrittenIn (text : List Char) (l : LoopPlace) : Prop :=
  ∃ k < text.length, Position.ofOffset text k = l.2
    ∧ (firstKeyword l.1).spelling.toList <+: text.drop k

theorem writtenIn_of_word {text cs : List Char} (hcs : cs <:+ text) {kind : LoopKind}
    (hword : (firstKeyword kind).spelling.toList <+: cs) :
    WrittenIn text (kind, placeIn text cs) := by
  have hpos := (firstKeyword kind).spelling_pos
  have hle := hword.length_le
  have hlen := hcs.length_le
  refine ⟨text.length - cs.length, by omega, (placeIn_eq text cs).symm, ?_⟩
  rwa [← List.suffix_iff_eq_drop.1 hcs]

/-- A loop rule begins with the first word of its loop. -/
theorem pattern_of_loops {r : Rule} {kind : LoopKind} (hr : Manner.of r = .loops kind) :
    ∃ q, r.pattern = .both (.keyword (firstKeyword kind)) q := by
  cases r <;> cases hr <;> exact ⟨_, rfl⟩

theorem exists_of_yields_keyword {k : Keyword} {cs : List Char} {m : Matched}
    (h : Yields (.keyword k) cs (some m)) :
    k.spelling.toList <+: cs ∧ m = ⟨k.spelling.toList.length, []⟩ := by
  have hadvances : (Pattern.keyword k).Advances := fun q hq => absurd hq List.not_mem_nil
  have hm := h.eq_match? hadvances
  rw [Pattern.keyword, Pattern.match?_drop, Pattern.match?_token, Option.map_map, eq_comm,
    Option.map_eq_some_iff] at hm
  obtain ⟨n, hn, rfl⟩ := hm
  obtain ⟨hword, rfl, -⟩ := wordLength?_eq_some.1 hn
  exact ⟨hword, rfl⟩

/-! ## What a match stands for -/

/-- The nodes that a match stands for lie in the text that it takes; behind the keyword, if the
pattern begins with one. -/
structure Arranged (text : List Char) (p : Pattern) (cs : List Char) (m : Matched) : Prop where
  row : Row (WrittenIn text) (placeIn text cs)
    (nodesOf (Part.ofTree.ofTrees (placeIn text) m.trees)) (placeIn text (cs.drop m.length))
  behindKeyword : ∀ k q, p = .both (.keyword k) q → k.spelling.toList <+: cs
    ∧ Row (WrittenIn text) (placeIn text (cs.drop k.spelling.toList.length))
      (nodesOf (Part.ofTree.ofTrees (placeIn text) m.trees)) (placeIn text (cs.drop m.length))

variable {text : List Char}

theorem arranged_nil {p : Pattern} {cs : List Char} {n : Nat}
    (hp : ∀ k q, p ≠ .both (.keyword k) q) : Arranged text p cs ⟨n, []⟩ :=
  ⟨.nil (placeIn_drop_le text cs n), fun k q h => absurd h (hp k q)⟩

theorem row_append {cs : List Char} {m m' : Matched}
    (h : Row (WrittenIn text) (placeIn text cs)
      (nodesOf (Part.ofTree.ofTrees (placeIn text) m.trees)) (placeIn text (cs.drop m.length)))
    (h' : Row (WrittenIn text) (placeIn text (cs.drop m.length))
      (nodesOf (Part.ofTree.ofTrees (placeIn text) m'.trees))
      (placeIn text ((cs.drop m.length).drop m'.length))) :
    Row (WrittenIn text) (placeIn text cs)
      (nodesOf (Part.ofTree.ofTrees (placeIn text) (m.trees ++ m'.trees)))
      (placeIn text (cs.drop (m.length + m'.length))) := by
  rw [ofTrees_append, nodesOf_append, ← List.drop_drop]
  exact h.append h'

/-- **What a match stands for lies in the text that it takes.** -/
theorem arranged_of_yields {p : Pattern} {cs : List Char} {o : Option Matched} (h : Yields p cs o)
    (hcs : cs <:+ text) {m : Matched} (ho : o = some m) : Arranged text p cs m := by
  induction h generalizing m with
  | text w cs =>
    obtain ⟨n, -, rfl⟩ := Option.map_eq_some_iff.1 ho
    exact arranged_nil (by simp)
  | token t cs =>
    obtain ⟨n, -, rfl⟩ := Option.map_eq_some_iff.1 ho
    have hle := placeIn_drop_le text cs n
    refine ⟨?_, by simp⟩
    exact Row.singleton_iff.2 (.of_leaf rfl trivial rfl (le_refl _) hle)
  | @rule r cs o h ih =>
    obtain ⟨body, rfl, rfl⟩ := Option.map_eq_some_iff.1 ho
    obtain ⟨hrow, hbehind⟩ := ih hcs rfl
    refine ⟨?_, by simp⟩
    rw [Part.ofTree.ofTrees, Part.ofTree, Part.ofTree.ofTrees, nodesOf_cons, nodesOf_nil,
      List.append_nil]
    -- What the loop holds is behind its keyword, so the loop begins first.
    refine row_ofRule hrow fun kind hkind => ?_
    obtain ⟨q, hq⟩ := pattern_of_loops hkind
    obtain ⟨hword, hinner⟩ := hbehind _ q hq
    exact ⟨writtenIn_of_word hcs hword, _,
      placeIn_lt_drop hcs (Keyword.spelling_pos _) hword.length_le, hinner⟩
  | drop _ ih =>
    obtain ⟨m, rfl, rfl⟩ := Option.map_eq_some_iff.1 ho
    exact arranged_nil (by simp)
  | empty =>
    obtain rfl := Option.some.inj ho
    exact arranged_nil (by simp)
  | bothFails => cases ho
  | @both p q cs m o hp hq ihp ihq =>
    obtain ⟨m', rfl, rfl⟩ := Option.map_eq_some_iff.1 ho
    have hfirst := ihp hcs rfl
    have hsecond := ihq ((List.drop_suffix _ _).trans hcs) rfl
    refine ⟨row_append hfirst.row hsecond.row, ?_⟩
    rintro k q' ⟨⟩
    obtain ⟨hword, rfl⟩ := exists_of_yields_keyword hp
    refine ⟨hword, ?_⟩
    rw [← List.drop_drop]
    exact hsecond.row
  | first _ ih =>
    exact ⟨(ih hcs ho).row, by simp⟩
  | second _ _ _ ih =>
    exact ⟨(ih hcs ho).row, by simp⟩
  | @optional p cs o _ ih =>
    obtain rfl := Option.some.inj ho
    cases o with
    | none => exact arranged_nil (by simp)
    | some m => exact ⟨(ih hcs rfl).row, by simp⟩
  | stop =>
    obtain rfl := Option.some.inj ho
    exact arranged_nil (by simp)
  | more _ _ ih ihmore =>
    obtain rfl := Option.some.inj ho
    exact ⟨row_append (ih hcs rfl).row (ihmore ((List.drop_suffix _ _).trans hcs) rfl).row, by simp⟩
  | present => cases ho
  | absent =>
    obtain rfl := Option.some.inj ho
    exact arranged_nil (by simp)

/-! ## The whole tree -/

/-- A tree that was read is the meaning of a match of the program rule. -/
theorem exists_match_of_parse {text : String} {root : Node} (h : parse text = .ok root) :
    ∃ m, Rule.program.pattern.match? text.toList = some m
      ∧ root = treeOf (placeIn text.toList) (.node .program text.toList m.length m.trees) := by
  obtain ⟨n, source, length, ts, hmatch, -⟩ := match?_program text.toList
  have hrule := hmatch
  rw [Pattern.match?_rule, Option.map_eq_some_iff] at hrule
  obtain ⟨m, hm, he⟩ := hrule
  rw [Matched.mk.injEq, List.cons.injEq] at he
  obtain ⟨-, htree, -⟩ := he
  refine ⟨m, hm, ?_⟩
  rw [htree]
  obtain ⟨n', tree, houtcome⟩ := exists_outcome text
  obtain ⟨hlen, hoffences, -⟩ := houtcome.ok root h
  have hmatched := houtcome.matched
  rw [matchProgram, hmatch, Option.some.injEq, Matched.mk.injEq, List.cons.injEq] at hmatched
  obtain ⟨rfl, rfl, -⟩ := hmatched
  rw [parse_of_match hmatch (by omega) hoffences, Except.ok.injEq] at h
  exact h.symm

theorem within_programOf {written : LoopPlace → Prop} {ps : List Part} {b : Position} {n : Node}
    (h : Row written ⟨1, 1⟩ (nodesOf ps) b) (hn : (Part.programOf ps).program? = some n) :
    Within written ⟨1, 1⟩ b n := by
  unfold Part.programOf at hn
  split at hn
  · obtain rfl := Option.some.inj hn
    exact Row.singleton_iff.1
      (h.node rfl rfl trivial (by simp [Node.children, Node.slots, Slot.nodes]))
  · cases hn

/-- A tree that was read lies in its text, before its loops are numbered. -/
theorem exists_within_of_parse {text : String} {root : Node} (h : parse text = .ok root) :
    ∃ n b, root = n.number ∧ Within (WrittenIn text.toList) ⟨1, 1⟩ b n := by
  obtain ⟨m, hm, rfl⟩ := exists_match_of_parse h
  have hrow := (arranged_of_yields (hm ▸ yields_match? Rule.program.advances text.toList)
    List.suffix_rfl rfl).row
  rw [placeIn_self] at hrow
  obtain ⟨ns, p, hprogram, -⟩ := @program?_ofTree (placeIn text.toList) text.toList m.length _
    (derives_match? hm)
  rw [treeOf, hprogram]
  exact ⟨_, _, rfl, within_programOf hrow hprogram⟩

/-- A tree that was read lies in its text. -/
theorem ordered_of_parse {text : String} {root : Node} (h : parse text = .ok root) :
    Nested root ∧ ∃ b, Stretch (WrittenIn text.toList) ⟨1, 1⟩ b (loopPlaces root) := by
  obtain ⟨n, b, rfl, hwithin⟩ := exists_within_of_parse h
  have hloops := hwithin.loops
  rw [← loopPlaces_numberFrom _ 0] at hloops
  exact ⟨nested_numberFrom hwithin.nested 0, _, hloops⟩

/-- Every node of a tree that was read has a position in the text. -/
theorem start_le_of_parse {text : String} {root : Node} (h : parse text = .ok root) :
    ∀ d ∈ root.preorder, ⟨1, 1⟩ ≤ d.loc := by
  obtain ⟨n, b, rfl, hwithin⟩ := exists_within_of_parse h
  refine start_le_of_nested (nested_numberFrom hwithin.nested 0) ?_
  rw [loc_numberFrom]
  exact hwithin.start

/-! ## The search -/

/-- **Discovery order is source order.** In a tree that was read, no node begins before the node
above it; the loops that a search reports begin one after another; and where a loop begins, the text
has its first word. -/
theorem locate_in_source_order {text : String} {root : Node} (h : parse text = .ok root)
    (kinds : List LoopKind) (c : Context) :
    (∀ n ∈ root.preorder, ∀ d ∈ n.children, d.loc.before n.loc = false)
      ∧ ((locate root kinds c).1.Pairwise fun l l' => l.position.before l'.position = true)
      ∧ ∀ l ∈ (locate root kinds c).1, ∃ k < text.toList.length,
          Position.ofOffset text.toList k = l.position
            ∧ (firstKeyword l.kind).spelling.toList <+: text.toList.drop k := by
  obtain ⟨hnested, b, hloops⟩ := ordered_of_parse h
  have hfound : Stretch (WrittenIn text.toList) ⟨1, 1⟩ b
      ((locate root kinds c).1.map fun l => (l.kind, l.position)) := by
    rw [locate_places]
    exact hloops.sublist List.filter_sublist
  refine ⟨fun n hn d hd => Position.not_before_of_le (hnested n hn d hd), ?_, fun l hl => ?_⟩
  · refine (List.pairwise_map.1 hfound.ascending).imp ?_
    exact Position.before_iff.2
  · exact hfound.written _ (List.mem_map_of_mem hl)

theorem locate_in_source_order_sample : parse sampleText = .ok sampleTree
    ∧ sampleLoop ∈ (locate sampleTree LoopKind.all {}).1
    ∧ ∃ k < sampleText.toList.length, Position.ofOffset sampleText.toList k = ⟨1, 8⟩
      ∧ "while".toList <+: sampleText.toList.drop k := by
  have hmem : sampleLoop ∈ (locate sampleTree LoopKind.all {}).1 :=
    chosen_sample.located sampleLoop List.mem_cons_self
  exact ⟨parse_sampleText, hmem,
    (locate_in_source_order parse_sampleText LoopKind.all {}).2.2 sampleLoop hmem⟩

end LoopBound.Reading
