import LoopBound.Proofs.Reading.Makes
import LoopBound.Proofs.Reading.Parse
import LoopBound.Proofs.Reading.Placed

/-!
# Whatever is read is well-formed

Every text has a match of the program rule, every match has a meaning, and the meaning of a match of
the program rule is a well-formed program. So the ways in which a text is no program are exactly two:
text is left over behind the match, or the match has an offence. What the shape functions say of
parts that the grammar never delivers does not matter, and no chain of operators is without a fold.

At the end stands what guarding needs to know of a tree that was read (`ReadTree`): it is a program,
no two of its loops share a number, and its loops stand where a declaration can be put in front of
them.
-/

namespace LoopBound.Reading

open LoopBound.Syntax LoopBound.Grammar
open LoopBound.Text (Position lineStarts)

variable (locate : List Char → Position)

theorem ofTrees_append (ts us : List Tree) : Part.ofTree.ofTrees locate (ts ++ us)
    = Part.ofTree.ofTrees locate ts ++ Part.ofTree.ofTrees locate us := by
  induction ts with
  | nil => rfl
  | cons t ts ih =>
    rw [List.cons_append, Part.ofTree.ofTrees, ih, Part.ofTree.ofTrees, List.cons_append]

/-- The meanings of derived trees are delivered. -/
theorem delivers_of_derives {p : Pattern} {ts : List Tree} (h : Derives p ts)
    {behind : List Part → Prop} {rest : List Part} (hrest : behind rest) :
    Delivers p behind (Part.ofTree.ofTrees locate ts ++ rest) := by
  induction h generalizing behind rest with
  | text | drop | empty | absent => exact hrest
  | token h => exact ⟨_, _, rest, rfl, spells_of_length? h, hrest⟩
  | rule source n _ ih =>
    refine ⟨_, rest, rfl, ?_, hrest⟩
    have hhanded : Handed _ (Part.ofTree.ofTrees locate _ ++ []) := ih rfl
    rw [List.append_nil] at hhanded
    rw [Part.ofTree]
    exact makes_ofRule hhanded
  | both _ _ ihp ihq =>
    rw [ofTrees_append, List.append_assoc]
    exact ihp (ihq hrest)
  | first _ ih => exact .inl (ih hrest)
  | second _ ih => exact .inr (ih hrest)
  | skipped => exact .inl hrest
  | taken _ ih => exact .inr (ih hrest)
  | stop => exact ⟨[], rest, rfl, by simp, hrest⟩
  | @more p ts us _ _ ih ihmany =>
    obtain ⟨rounds, qs, he, hrounds, hqs⟩ := ihmany hrest
    have hround : Delivers p (· = []) (Part.ofTree.ofTrees locate ts ++ []) := ih rfl
    rw [List.append_nil] at hround
    refine ⟨Part.ofTree.ofTrees locate ts :: rounds, qs, ?_,
      List.forall_mem_cons.2 ⟨hround, hrounds⟩, hqs⟩
    rw [ofTrees_append, List.append_assoc, he, List.flatten_cons, List.append_assoc]

/-- A rule is handed the meanings of what its pattern derives. -/
theorem handed_of_derives {r : Rule} {ts : List Tree} (h : Derives r.pattern ts) :
    Handed r (Part.ofTree.ofTrees locate ts) := by
  have hdelivers := @delivers_of_derives locate _ _ h (· = []) [] rfl
  rw [List.append_nil] at hdelivers
  exact hdelivers

/-! ## Chains of operators -/

/-- Every chain of operators in the match is folded, and its meaning is the folded expression. -/
def ChainsFold (t : Tree) : Prop :=
  ∀ source n ts, .node .binaryExpression source n ts ∈ t.subtrees →
    ∃ e, foldBinary ((Part.ofTree.ofTrees locate ts).filterMap Part.expression?)
        ((Part.ofTree.ofTrees locate ts).filterMap operator?) = .ok e
      ∧ Part.ofTree locate (.node .binaryExpression source n ts) = .expression e

theorem chainsFold_of_derives {p : Pattern} {ts : List Tree} (h : Derives p ts) {t : Tree}
    (ht : t ∈ ts) : ChainsFold locate t := by
  intro source n us hus
  obtain ⟨e, hfold, he, -⟩ := foldBinary_of_handed (handed_of_derives locate (h.of_subtree ht hus))
  exact ⟨e, hfold, he⟩

/-! ## Programs -/

/-- The meaning of a match of the program rule is a well-formed program. -/
theorem program?_ofTree {source : List Char} {n : Nat} {ts : List Tree}
    (h : Derives Rule.program.pattern ts) : ∃ ns p,
      (Part.ofTree locate (.node .program source n ts)).program? = some (.program ns p)
        ∧ WellFormed (.program ns p) := by
  obtain ⟨ns, p, he, hformed⟩ := makes_program (handed_of_derives locate h)
  refine ⟨ns, p, ?_, hformed⟩
  rw [Part.ofTree]
  show (Part.programOf _).program? = _
  rw [he]
  rfl

theorem program_number (ns : List Node) (p : Position) :
    ∃ ms q, (Node.program ns p).number = .program ms q := by
  obtain ⟨ss, he, -, hslots⟩ := (Node.program ns p).numberFrom_slots 0
  cases hslots with
  | cons h hrest =>
    cases hrest
    rename_i s
    obtain ⟨ms, rfl⟩ := Slot.shape_eq_many.1 h.1
    exact ⟨ms, p, he⟩

/-- The tree of a match of the program rule is a well-formed program. -/
theorem wellFormed_treeOf {source : List Char} {n : Nat} {ts : List Tree}
    (h : Derives Rule.program.pattern ts) :
    (∃ ns p, treeOf locate (.node .program source n ts) = .program ns p)
      ∧ WellFormed (treeOf locate (.node .program source n ts)) := by
  obtain ⟨ns, p, he, hformed⟩ := @program?_ofTree locate source n ts h
  have hstands : Stands .statement (.program ns p) := ⟨rfl, hformed⟩
  rw [treeOf, he]
  exact ⟨program_number ns p, (stands_numberFrom hstands 0).wellFormed⟩

theorem distinctLoops_treeOf (t : Tree) : (treeOf locate t).DistinctLoops := by
  unfold treeOf
  cases (Part.ofTree locate t).program? with
  | none =>
    simp [Node.DistinctLoops, Node.loopIds_eq, Node.loopId?, Node.loop?, Node.children, Node.slots,
      Slot.nodes]
  | some n => exact Node.distinctLoops_number n

theorem parse_of_leftOver {text : String} {n : Nat} {tree : Tree}
    (hmatch : matchProgram text.toList = some ⟨n, [tree]⟩) (hlen : n < text.toList.length) :
    parse text = .error ⟨.leftOver (Text.excerpt text.toList n excerptWidth),
      Position.ofOffset text.toList n⟩ := by
  simp only [parse, hmatch, hlen, if_true]

theorem parse_of_offence {text : String} {n : Nat} {tree : Tree} {o : Offence}
    {source : List Char} {rest : List (Offence × List Char)}
    (hmatch : matchProgram text.toList = some ⟨n, [tree]⟩) (hlen : ¬n < text.toList.length)
    (hoffences : offences tree = (o, source) :: rest) :
    parse text = .error ⟨.offence o,
      suffixPosition (lineStarts text.toList) text.toList.length source⟩ := by
  simp only [parse, hmatch, hoffences, hlen, if_false]

/-- What decides how a text is read: a match of the program rule, of which there is always one. -/
structure Outcome (text : String) (n : Nat) (tree : Tree) : Prop where
  /-- The rule matches in front of every text. -/
  matched : matchProgram text.toList = some ⟨n, [tree]⟩
  /-- All chains of operators in the match are folded, wherever the match is said to lie. -/
  chains : ∀ locate, ChainsFold locate tree
  /-- An error is a text that is left over, or an offence in a match of the whole text. -/
  error : ∀ e, parse text = .error e →
    (e.code = .incompleteParse ∧ n < text.toList.length)
      ∨ (e.code = .invalidConstruct ∧ n = text.toList.length ∧ offences tree ≠ [])
  /-- A match of the whole text without offences is read into a well-formed program. -/
  ok : ∀ root, parse text = .ok root → n = text.toList.length ∧ offences tree = []
    ∧ (∃ ns p, root = .program ns p) ∧ WellFormed root

/-- **How a text is read.** -/
theorem exists_outcome (text : String) : ∃ n tree, Outcome text n tree := by
  obtain ⟨n, source, length, ts, hmatch, hle⟩ := match?_program text.toList
  have hderives : Derives (.rule .program) [.node .program source length ts] :=
    derives_match? hmatch
  have hts : Derives Rule.program.pattern ts :=
    hderives.of_subtree List.mem_cons_self (Tree.mem_subtrees_self _)
  refine ⟨n, _, hmatch, fun locate => chainsFold_of_derives locate hderives List.mem_cons_self,
    ?_, ?_⟩
  · intro e he
    by_cases hlen : n < text.toList.length
    · rw [parse_of_leftOver hmatch hlen, Except.error.injEq] at he
      exact .inl ⟨he ▸ rfl, hlen⟩
    · cases hoffences : offences (.node .program source length ts) with
      | nil =>
        rw [parse_of_match hmatch hlen hoffences] at he
        cases he
      | cons o rest =>
        rw [parse_of_offence hmatch hlen hoffences, Except.error.injEq] at he
        exact .inr ⟨he ▸ rfl, by omega, List.cons_ne_nil _ _⟩
  · intro root hroot
    by_cases hlen : n < text.toList.length
    · rw [parse_of_leftOver hmatch hlen] at hroot
      cases hroot
    · cases hoffences : offences (.node .program source length ts) with
      | nil =>
        rw [parse_of_match hmatch hlen hoffences, Except.ok.injEq] at hroot
        exact ⟨by omega, rfl, hroot ▸ wellFormed_treeOf _ hts⟩
      | cons o rest =>
        rw [parse_of_offence hmatch hlen hoffences] at hroot
        cases hroot

/-! ## The tree of a text -/

/-- What a text is read into. -/
structure ReadTree (n : Node) : Prop where
  program : ∃ ns p, n = .program ns p
  placed : Placed n
  distinct : n.DistinctLoops

/-- Every text that is read at all is read into such a tree. -/
theorem readTree_of_parse {text : String} {n : Node} (h : parse text = .ok n) : ReadTree n := by
  obtain ⟨m, tree, houtcome⟩ := exists_outcome text
  obtain ⟨hlen, hoffences, hprogram, hformed⟩ := houtcome.ok n h
  have htree := parse_of_match houtcome.matched (by omega) hoffences
  rw [h, Except.ok.injEq] at htree
  exact ⟨hprogram, placed_of_wellFormed hformed, htree ▸ distinctLoops_treeOf _ tree⟩

end LoopBound.Reading
