import LoopBound.Command.Run
import LoopBound.Proofs.Grammar.Surround
import LoopBound.Proofs.Reading.Relocate
import LoopBound.Proofs.Reading.SameLine
import LoopBound.Proofs.Text.Offsets

/-!
# Layout around a program

A program is read alike behind layout that ends a line and in front of blanks: the match is alike
(`program_surrounded`), so it has the same offences, which are none, and stands for the same tree,
up to positions. Those are where the pieces of the match are taken from, so each moves with its
place in the text (`parse_surrounded`). Blanks behind a program alone move nothing, so a program
that is written out with a line feed at its end is read back as what it was.
-/

namespace LoopBound.Reading

open LoopBound.Syntax LoopBound.Grammar LoopBound.Text
open LoopBound.Command (Job)

variable {w : List Char} {t t' : Tree} {ts ts' : List Tree}

/-! ## Offences -/

theorem any_of_forall₂ {R : Tree → Tree → Prop} {p : Tree → Bool} (h : List.Forall₂ R ts ts')
    (hp : ∀ t t', R t t' → p t' = p t) : ts'.any p = ts.any p := by
  induction h with
  | nil => rfl
  | cons hone _ ih => rw [List.any_cons, List.any_cons, hp _ _ hone, ih]

theorem isMatchOf_alike (r : Rule) (h : t.Alike w t') : isMatchOf r t' = isMatchOf r t := by
  cases h <;> rfl

theorem isUnnamedTarget_alike (h : t.Alike w t') : isUnnamedTarget t' = isUnnamedTarget t := by
  cases h with
  | leaf => rfl
  | node r _ hts =>
    cases r
    case bindingTarget =>
      exact congrArg not (any_of_forall₂ hts fun _ _ => isMatchOf_alike .identifier)
    all_goals rfl

theorem ownOffence?_alike (h : t.Alike w t') : ownOffence? t' = ownOffence? t := by
  cases h with
  | leaf => rfl
  | node r _ hts =>
    cases r
    case tryStatement =>
      have hhandled := any_of_forall₂ hts fun _ _ h => congrArg₂ or
        (isMatchOf_alike .catchClause h) (isMatchOf_alike .finallyClause h)
      rw [ownOffence?, ownOffence?, hhandled]
    case patternProperty =>
      cases hts with
      | nil => rfl
      | cons hfirst hrest =>
        cases hfirst with
        | leaf => cases hrest <;> rfl
        | node q _ hus =>
          cases q
          case bindingElement =>
            cases hrest with
            | nil =>
              rw [ownOffence?, ownOffence?, any_of_forall₂ hus fun _ _ => isUnnamedTarget_alike]
            | cons => rfl
          all_goals cases hrest <;> rfl
    all_goals rfl

theorem offencesIn_of_forall₂ {R : Tree → Tree → Prop} (h : List.Forall₂ R ts ts')
    (hone : ∀ t ∈ ts, ∀ t', R t t' → (offences t').map (·.1) = (offences t).map (·.1)) :
    (offences.offencesIn ts').map (·.1) = (offences.offencesIn ts).map (·.1) := by
  induction h with
  | nil => rfl
  | cons halike _ ih =>
    rw [offences.offencesIn, offences.offencesIn, List.map_append, List.map_append,
      hone _ List.mem_cons_self _ halike, ih fun t ht => hone t (List.mem_cons_of_mem _ ht)]

/-- Matches that are alike have the same offences. -/
theorem offences_alike : ∀ t t' : Tree, t.Alike w t' →
    (offences t').map (·.1) = (offences t).map (·.1) := by
  refine Tree.induction_trees (fun t source n t' h => ?_) fun r source n ts ih t' h => ?_
  · cases h
    rfl
  · have hown := ownOffence?_alike h
    cases h with
    | node _ _ hts =>
      simp only [offences, List.map_append, hown, offencesIn_of_forall₂ hts ih]
      cases ownOffence? (.node r source n ts) <;> rfl

/-! ## Trees -/

variable {locate locate' : List Char → Position} {g : Position → Position} {source : List Char}
  {n : Nat}

/-- Programs whose matches are alike are the same but for positions below the root. -/
theorem treeOf_alike (hroot : t = .node .program source n ts) (hmatched : t.Matched)
    (hplace : ∀ d ∈ t.subtrees, locate' (d.source ++ w) = g (locate d.source))
    (halike : t.Alike w t') : treeOf locate' t' = (treeOf locate t).relocateBelow g := by
  subst hroot
  obtain ⟨m, hm, rfl, -⟩ := hmatched.takes
  obtain ⟨ns, p, hprogram, -⟩ := @program?_ofTree locate source n _ (derives_match? hm)
  have hpart := ofTree_alike _ hmatched hplace t' halike
  rw [treeOf, treeOf, hpart, hprogram]
  generalize Part.ofTree locate (.node .program source n m.trees) = part at hprogram
  cases part <;> cases hprogram
  exact Node.number_relocateBelow g (.program ns p)

/-- All positions below the root of a tree are those of texts in the match. -/
theorem loc_of_treeOf (hroot : t = .node .program source n ts) (hmatched : t.Matched)
    (halike : t.Alike w t') : ∀ c ∈ (treeOf locate t).children, ∀ d ∈ c.preorder,
      ∃ e ∈ t.subtrees, d.loc = locate e.source := by
  refine Node.loc_of_relocateBelow_eq (P := fun p => ∃ e ∈ t.subtrees, p = locate e.source)
    fun g g' hsame => ?_
  -- either tree is that of the other match, if its texts are cut to what they were taken from
  have hcut : ∀ d ∈ t.subtrees,
      g (locate ((d.source ++ w).take ((d.source ++ w).length - w.length)))
        = g (locate d.source) := by
    intro d _
    rw [List.length_append, Nat.add_sub_cancel, List.take_left]
  have htree : treeOf (fun cs => g (locate (cs.take (cs.length - w.length)))) t' = _ :=
    treeOf_alike hroot hmatched hcut halike
  rw [← htree]
  exact treeOf_alike hroot hmatched (fun d hd => (hcut d hd).trans (hsame _ ⟨d, hd, rfl⟩)) halike

/-! ## Places -/

/-- Where a position of the text is once one text stands in front of it and another one behind. -/
def placeBetween (front text back : String) (p : Position) : Position :=
  .ofOffset (front ++ text ++ back).toList (front.toList.length + p.offsetIn text.toList : Nat)

theorem placeBetween_ofOffset {front text back : String} {k : Nat} (h : k ≤ text.toList.length) :
    placeBetween front text back (.ofOffset text.toList k)
      = .ofOffset (front ++ text ++ back).toList (front.toList.length + k : Nat) := by
  rw [placeBetween, Position.offsetIn_ofOffset h]

theorem toList_between (front text back : String) : (front ++ text ++ back).toList
    = front.toList ++ (text.toList ++ back.toList) := by
  rw [String.toList_append, String.toList_append, List.append_assoc]

theorem placeIn_between {front text back : String} {cs : List Char} (hcs : cs <:+ text.toList) :
    placeIn (front ++ text ++ back).toList (cs ++ back.toList)
      = placeBetween front text back (placeIn text.toList cs) := by
  have hle := hcs.length_le
  have hoffset : (front ++ text ++ back).toList.length - (cs ++ back.toList).length
      = front.toList.length + (text.toList.length - cs.length) := by
    simp only [toList_between, List.length_append]
    omega
  rw [placeIn_eq, placeIn_eq, placeBetween_ofOffset (Nat.sub_le _ _), hoffset]

/-! ## Programs with something around them -/

/-- The match of a program that was read. -/
structure WholeMatch (text : String) (root : Node) (m : Matched) : Prop where
  matched : Rule.program.pattern.match? text.toList = some m
  whole : m.length = text.toList.length
  inoffensive : offences (.node .program text.toList m.length m.trees) = []
  tree : root = treeOf (placeIn text.toList) (.node .program text.toList m.length m.trees)

theorem matchProgram_of_match? {cs : List Char} {m : Matched}
    (h : Rule.program.pattern.match? cs = some m) :
    matchProgram cs = some ⟨m.length, [.node .program cs m.length m.trees]⟩ := by
  rw [matchProgram, Pattern.match?_rule, h]
  rfl

theorem exists_wholeMatch {text : String} {root : Node} (h : parse text = .ok root) :
    ∃ m, WholeMatch text root m := by
  obtain ⟨m, hm, htree⟩ := exists_match_of_parse h
  obtain ⟨n, tree, houtcome⟩ := exists_outcome text
  obtain ⟨hlen, hoffences, -⟩ := houtcome.ok root h
  have hmatched := houtcome.matched
  rw [matchProgram_of_match? hm, Option.some.injEq, Matched.mk.injEq, List.cons.injEq] at hmatched
  obtain ⟨rfl, rfl, -⟩ := hmatched
  exact ⟨m, hm, hlen, hoffences, htree⟩

namespace WholeMatch

variable {front text back : String} {root : Node} {m : Matched}

/-- The tree of the match. -/
abbrev rootTree (text : String) (m : Matched) : Tree :=
  .node .program text.toList m.length m.trees

theorem subtrees (h : WholeMatch text root m) : (rootTree text m).Matched
    ∧ ∀ d ∈ (rootTree text m).subtrees, d.source <:+ text.toList := by
  have hadvances : (Pattern.rule .program).Advances := fun q hq => absurd hq List.not_mem_nil
  exact takes_of_subtree hadvances
    ⟨_, matchProgram_of_match? h.matched, rfl, rfl⟩ _ List.mem_cons_self

/-- With layout in front and blanks behind there is such a match again. -/
theorem surrounded (h : WholeMatch text root m) (hfront : LayoutLines front.toList)
    (hback : AllBlank back.toList) : ∃ m', Rule.program.pattern.match?
        (front ++ text ++ back).toList = some m'
      ∧ m'.length = (front ++ text ++ back).toList.length
      ∧ (rootTree text m).Alike back.toList (rootTree (front ++ text ++ back) m') := by
  obtain ⟨ts, hts, halike⟩ := program_surrounded hfront hback h.matched h.whole
  rw [← toList_between] at hts
  exact ⟨_, hts, rfl, .node .program (.inr rfl) halike⟩

theorem parse_between (h : WholeMatch text root m) (hfront : LayoutLines front.toList)
    (hback : AllBlank back.toList) :
    parse (front ++ text ++ back) = .ok (root.relocateBelow (placeBetween front text back)) := by
  obtain ⟨m', hm', hwhole, halike⟩ := h.surrounded hfront hback
  obtain ⟨hmatched, hbegin⟩ := h.subtrees
  have hoffences : offences (rootTree (front ++ text ++ back) m') = [] := by
    have hsame := offences_alike _ _ halike
    rw [h.inoffensive] at hsame
    exact List.map_eq_nil_iff.1 hsame
  rw [parse_of_match (matchProgram_of_match? hm') (Nat.not_lt_of_ge (Nat.le_of_eq hwhole.symm))
    hoffences, h.tree]
  exact congrArg Except.ok
    (treeOf_alike rfl hmatched (fun d hd => placeIn_between (hbegin d hd)) halike)

/-- All positions below the root are those of offsets in the text. -/
theorem exists_offset (h : WholeMatch text root m) : ∀ c ∈ root.children, ∀ d ∈ c.preorder,
    ∃ k ≤ text.toList.length, d.loc = .ofOffset text.toList k := by
  have hempty : AllBlank "".toList := allBlank_nil
  obtain ⟨_, -, -, halike⟩ := h.surrounded layoutLines_empty hempty
  intro c hc d hd
  rw [h.tree] at hc
  obtain ⟨e, -, hloc⟩ := loc_of_treeOf rfl h.subtrees.1 halike c hc d hd
  exact ⟨_, Nat.sub_le _ _, hloc.trans (placeIn_eq _ _)⟩

/-- Blanks behind a program alone move nothing. -/
theorem parse_append (h : WholeMatch text root m) (hback : AllBlank back.toList) :
    parse (text ++ back) = .ok root := by
  have hparse := h.parse_between layoutLines_empty hback
  have hsame : ∀ k ≤ text.toList.length, placeBetween "" text back (.ofOffset text.toList k)
      = .ofOffset text.toList k := by
    intro k hk
    have hfront : (text.toList ++ back.toList).take (0 + k) = text.toList.take k := by
      rw [Nat.zero_add, List.take_append_of_le_length hk]
    rw [placeBetween_ofOffset hk, toList_between, Position.ofOffset_natCast,
      Position.ofOffset_natCast]
    exact congrArg Position.after hfront
  rw [String.empty_append, Node.relocateBelow_eq_self] at hparse
  · exact hparse
  · intro c hc
    refine Node.relocate_eq_self fun d hd => ?_
    obtain ⟨k, hk, hloc⟩ := h.exists_offset c hc d hd
    rw [hloc, hsame k hk]

/-- The root begins where the text does. -/
theorem exists_body (h : WholeMatch text root m) : ∃ body, root = .program body ⟨1, 1⟩ := by
  obtain ⟨ns, p, hprogram, -⟩ := @program?_ofTree (placeIn text.toList) text.toList m.length _
    (derives_match? h.matched)
  obtain ⟨body, q, hnumber⟩ := program_number ns p
  have hroot : root = (Node.program ns p).number := by rw [h.tree, treeOf, hprogram]
  have hloc : (Node.program body q).loc = p := by
    rw [← hnumber, Node.number, Guard.loc_numberFrom]
    rfl
  have hp : p = ⟨1, 1⟩ := by
    change (Part.programOf _).program? = _ at hprogram
    unfold Part.programOf at hprogram
    split at hprogram <;> cases hprogram
    rfl
  exact ⟨body, by rw [hroot, hnumber, ← hp, ← hloc]; rfl⟩

end WholeMatch

/-! ## Programs that are written out -/

/-- The code that an outcome gives: in the file that is written, or else on the standard output. -/
def codeGiven (o : Command.Outcome) : String :=
  match o.written with
  | some (_, text) => text
  | none => o.stdout

/-- Code is given as it is, or with a line feed at its end, wherever it is written. -/
theorem codeGiven_finished {j : Job} (houtput : j.arguments.choices.output ≠ some .nothing)
    (entries : List Command.Entry) (text : String) : codeGiven (j.finished entries text) = text
      ∨ codeGiven (j.finished entries text) = text ++ "\n" := by
  have hgiven : codeGiven (j.finished entries text)
      = if text.isEmpty || text.toList.getLast? == some '\n' then text else text ++ "\n" := by
    rw [Job.finished]
    cases hwhere : j.arguments.choices.output with
    | none => rfl
    | some given =>
      cases given with
      | nothing => exact absurd hwhere houtput
      | value path => cases hstdout : path == "-" <;> simp only [hstdout] <;> rfl
  rw [hgiven]
  split
  · exact .inl rfl
  · exact .inr rfl

/-- A program that is written out is read back as what it was. -/
theorem WholeMatch.parse_codeGiven {text : String} {root : Node} {m : Matched}
    (h : WholeMatch text root m) {j : Job}
    (houtput : j.arguments.choices.output ≠ some .nothing) (entries : List Command.Entry) :
    parse (codeGiven (j.finished entries text)) = .ok root := by
  have hempty : AllBlank "".toList := allBlank_nil
  have hfeed : AllBlank "\n".toList := List.forall_mem_singleton.2 (by decide)
  rcases codeGiven_finished houtput entries text with hgiven | hgiven
  · rw [hgiven, ← String.append_empty (s := text)]
    exact h.parse_append hempty
  · rw [hgiven]
    exact h.parse_append hfeed

/-- **Layout around a program is irrelevant.** Layout in front that ends a line, and blanks behind,
move what is below the root to the place where its text now is. The line feed at the end of a
program that is written out changes nothing at all. -/
theorem parse_surrounded {front text back : String} {root : Node} (h : parse text = .ok root)
    (hfront : LayoutLines front.toList) (hback : AllBlank back.toList) :
    parse (front ++ text ++ back) = .ok (root.relocateBelow (placeBetween front text back))
      ∧ (∀ c ∈ root.children, ∀ d ∈ c.preorder, ∃ k ≤ text.toList.length,
          d.loc = .ofOffset text.toList k
            ∧ placeBetween front text back d.loc
              = .ofOffset (front ++ text ++ back).toList (front.toList.length + k : Nat))
      ∧ (∃ body, root = .program body ⟨1, 1⟩) ∧ parse (text ++ "\n") = .ok root
      ∧ ∀ (j : Job) (entries : List Command.Entry), j.arguments.choices.output ≠ some .nothing →
          parse (codeGiven (j.finished entries text)) = .ok root := by
  obtain ⟨m, hwhole⟩ := exists_wholeMatch h
  have hfeed : AllBlank "\n".toList := List.forall_mem_singleton.2 (by decide)
  refine ⟨hwhole.parse_between hfront hback, fun c hc d hd => ?_, hwhole.exists_body,
    hwhole.parse_append hfeed, fun j entries houtput => hwhole.parse_codeGiven houtput entries⟩
  obtain ⟨k, hk, hloc⟩ := hwhole.exists_offset c hc d hd
  exact ⟨k, hk, hloc, by rw [hloc, placeBetween_ofOffset hk]⟩

/-- Two comments in front, the second of them up to the end of its line, and a line feed and a space
behind; and the program written to the standard output. -/
theorem parse_surrounded_comments : parse thrownText = .ok thrownTree
    ∧ parse ("/*b*/ //c\n" ++ thrownText ++ "\n ")
      = .ok (.program [.throwStatement (.identifier "a" ⟨2, 10⟩) ⟨2, 1⟩] ⟨1, 1⟩)
    ∧ parse (thrownText ++ "\n") = .ok thrownTree
    ∧ ∃ j : Job, codeGiven (j.finished [] thrownText) = thrownText ++ "\n"
      ∧ parse (codeGiven (j.finished [] thrownText)) = .ok thrownTree := by
  have hfront : LayoutLines "/*b*/ //c\n".toList := ⟨by decide, .inr (by decide)⟩
  have hback : AllBlank "\n ".toList :=
    List.forall_mem_cons.2 ⟨by decide, List.forall_mem_singleton.2 (by decide)⟩
  obtain ⟨hparse, -, -, hfeed, hwritten⟩ := parse_surrounded parse_thrownText hfront hback
  let j : Job := ⟨⟨.parse, "-", {}⟩, { max := 10, loops := LoopKind.all, indent := 2 }⟩
  refine ⟨parse_thrownText, ?_, hfeed, j, rfl, hwritten j [] (by decide)⟩
  have hstatement : placeBetween "/*b*/ //c\n" thrownText "\n " ⟨1, 1⟩ = ⟨2, 1⟩ := by decide
  have hthrown : placeBetween "/*b*/ //c\n" thrownText "\n " ⟨1, 10⟩ = ⟨2, 10⟩ := by decide
  rw [hparse, ← hstatement, ← hthrown]
  rfl

end LoopBound.Reading
