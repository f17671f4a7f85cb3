import LoopBound.Proofs.Grammar.Beside
import LoopBound.Proofs.Grammar.Yields

/-!
# Blanks behind a program

A program is matched alike with and without blanks behind it: the trees of the two matches differ in
nothing but the texts that they were taken from, and in how much of the blanks a statement takes.

The proof follows the match of the shorter text from its smallest pieces on. Only in a template may
the two part ways, where text goes on to the end without a closing mark. Then neither is a template.
-/

namespace LoopBound.Grammar

open LoopBound.Text Pattern

/-- The trees of two matches, the second of which has the blanks behind its texts. Where a match
took nothing it does not matter where that was. -/
inductive Tree.Alike (w : List Char) : Tree → Tree → Prop
  | leaf (t : Token) {source : List Char} {n : Nat} (h : n ≤ source.length) :
      Tree.Alike w (.leaf t source n) (.leaf t (source ++ w) n)
  | node (r : Rule) {source source' : List Char} {n n' : Nat} {ts ts' : List Tree}
      (hsource : source' = source ++ w ∨ r.mayBeEmpty = true)
      (h : List.Forall₂ (Tree.Alike w) ts ts') :
      Tree.Alike w (.node r source n ts) (.node r source' n' ts')

/-- What matching two texts that lie beside each other comes to. -/
inductive MatchAlike (w cs ds : List Char) : Option Matched → Option Matched → Prop
  | neither : MatchAlike w cs ds none none
  | both {m m' : Matched} (htrees : List.Forall₂ (Tree.Alike w) m.trees m'.trees)
      (hrest : Beside w (cs.drop m.length) (ds.drop m'.length)) :
      MatchAlike w cs ds (some m) (some m')

variable {w cs ds : List Char} {o o' : Option Matched} {p q : Pattern}

theorem matchAlike_of_endsBeside (h : EndsBeside w p cs ds) :
    MatchAlike w cs ds ((drop p).match? cs) ((drop p).match? ds) := by
  rw [match?_drop, match?_drop]
  rcases h with ⟨hno, hno'⟩ | ⟨_, _, ⟨m, hm, rfl⟩, ⟨m', hm', rfl⟩, hbeside⟩
  · rw [hno, hno']
    exact .neither
  · rw [hm, hm']
    exact .both .nil hbeside

/-! ## Templates -/

/-- What is left of the text. -/
def leftOf (cs : List Char) (o : Option Matched) : List Char :=
  cs.drop ((o.map Matched.length).getD 0)

/-- No template is closed in what is left of either text. -/
def Unclosed (cs ds : List Char) (o o' : Option Matched) : Prop :=
  '\x60' ∉ leftOf cs o ∧ '\x60' ∉ leftOf ds o'

theorem not_mem_of_blank (h : AllBlank ds) : '\x60' ∉ ds :=
  fun hmem => absurd (h _ hmem) (by decide)

/-- Text of a template is as long in both texts, unless it goes on to the end of them. -/
theorem templateLength_append (hw : AllBlank w) (cs : List Char) :
    templateLength (cs ++ w) = templateLength cs
      ∨ '\x60' ∉ cs.drop (templateLength cs)
        ∧ '\x60' ∉ (cs ++ w).drop (templateLength (cs ++ w)) := by
  fun_induction templateLength cs with
  | case1 => exact .inr ⟨by simp, not_mem_of_blank (hw.drop _)⟩
  | case2 c cs ih =>
    rw [List.cons_append, List.cons_append, templateLength]
    rcases ih with hsame | ⟨hleft, hleft'⟩
    · exact .inl (by rw [hsame])
    · rw [Nat.add_comm 2, Nat.add_comm 2]
      exact .inr ⟨hleft, hleft'⟩
  | case3 => exact .inl rfl
  | case4 c cs hescape hopen hc =>
    rw [Bool.or_eq_true, beq_iff_eq, beq_iff_eq] at hc
    rcases hc with rfl | rfl
    · exact .inl (by simp [templateLength])
    · obtain rfl : cs = [] := by
        cases cs with
        | nil => rfl
        | cons d cs => exact absurd rfl (hescape d cs rfl)
      have hall : '\x60' ∉ ['\\'] ++ w := by
        rw [List.mem_append, not_or]
        exact ⟨by decide, not_mem_of_blank hw⟩
      exact .inr ⟨by decide, fun hmem => hall (List.mem_of_mem_drop hmem)⟩
  | case5 c cs hescape hopen hc ih =>
    have hlength : templateLength (c :: cs ++ w) = 1 + templateLength (cs ++ w) := by
      rw [List.cons_append, templateLength, if_neg hc]
      · intro _ _ he _
        simp [he] at hc
      · intro rest he hrest
        cases cs with
        | nil => exact absurd (hw '\x7b' (by rw [← List.nil_append w, hrest]; simp)) (by decide)
        | cons d cs => exact hopen cs he (by rw [(List.cons.inj hrest).1])
    rw [hlength]
    rcases ih with hsame | ⟨hleft, hleft'⟩
    · exact .inl (by rw [hsame])
    · rw [Nat.add_comm 1, Nat.add_comm 1]
      exact .inr ⟨hleft, hleft'⟩

/-! ## Patterns that do not look for the end -/

/-- The rules that look for the end of the text or of a line, or go on in a template. -/
def watchfulRules : List Rule :=
  [.endOfInput, .lineBreakEnd, .inputEnd, .statementEnd, .templateSpan]

/-- What a template holds between its marks, down to the text in it. -/
def templateParts : List Pattern :=
  [token .templateText, either (rule .templateSubstitution) (token .templateText),
    rule .templateSpan, many (rule .templateSpan)]

/-- Blanks behind the text make no difference to the pattern: it does not look for the end of a text
or line, except to find the end of a statement, and it closes every template that it opens. -/
def Pattern.steady : Pattern → Bool
  | text v => !v.isEmpty && v.all (!isBlank ·)
  | token t => !t.seesBlanks
  | rule r => r ∉ watchfulRules
  | drop p => p ∈ [token .layout, token .sameLine, rule .statementEnd] || p.steady
  | empty => true
  | both p q => (p.steady || p ∈ templateParts && q = text ['\x60']) && q.steady
  | either p q => p.steady && q.steady
  | optional p => p.steady
  | many p => p.steady
  | absent p => p.steady

theorem steady_pattern {r : Rule} (h : r ∉ watchfulRules) : r.pattern.steady = true := by
  have hall : Rule.downward.all (fun r => r ∈ watchfulRules || r.pattern.steady) = true := by
    decide +kernel
  simpa [h] using List.all_eq_true.1 hall r r.mem_downward

/-! ## Steps of a match -/

namespace MatchAlike

theorem text {v : List Char} (hv : (Pattern.text v).steady = true) (hw : AllBlank w)
    (h : Beside w cs ds) :
    MatchAlike w cs ds ((Pattern.text v).match? cs) ((Pattern.text v).match? ds) := by
  rw [Pattern.steady, Bool.and_eq_true, List.all_eq_true] at hv
  rw [match?_text, match?_text, (h.trails hw).spelled? (by simpa using hv.2)]
  cases hn : spelled? v cs with
  | none => exact .neither
  | some n =>
    obtain ⟨hfront, rfl⟩ := spelled?_eq_some.1 hn
    exact .both .nil (h.drop hfront.length_le)

theorem token {t : Token} (ht : t.seesBlanks = false) (hw : AllBlank w) (h : Beside w cs ds) :
    MatchAlike w cs ds ((Pattern.token t).match? cs) ((Pattern.token t).match? ds) := by
  rw [match?_token, match?_token, (h.trails hw).length? ht]
  cases hn : t.length? cs with
  | none => exact .neither
  | some n =>
    obtain ⟨hle, hzero⟩ := Token.length?_bounds hn
    rcases h with rfl | ⟨rfl, -⟩
    · exact .both (.cons (.leaf t hle) .nil) (Beside.drop (.inl rfl) hle)
    · have hempty := hzero (Nat.le_zero.1 hle)
      have hsees : t.seesBlanks = true := by
        cases t <;> simp_all [Token.mayBeEmpty, Token.seesBlanks]
      rw [ht] at hsees
      cases hsees

/-- The match of a rule is that of its pattern, as one tree. -/
theorem rule {r : Rule} (h : MatchAlike w cs ds (r.pattern.match? cs) (r.pattern.match? ds))
    (hbeside : Beside w cs ds) :
    MatchAlike w cs ds ((Pattern.rule r).match? cs) ((Pattern.rule r).match? ds) := by
  rw [match?_rule, match?_rule]
  generalize hm : r.pattern.match? cs = o at h ⊢
  generalize r.pattern.match? ds = o' at h ⊢
  cases h with
  | neither => exact .neither
  | @both m m' htrees hrest =>
    refine .both (.cons (.node r ?_ htrees) .nil) hrest
    rcases hbeside with rfl | ⟨rfl, -⟩
    · exact .inl rfl
    · right
      rw [← r.mayBeEmpty_pattern]
      by_contra hno
      have hpos := match?_pos (by simpa using hno) hm
      have hle := match?_le hm
      rw [List.length_nil] at hle
      omega

theorem drop (h : MatchAlike w cs ds o o') : MatchAlike w cs ds (o.map fun m => ⟨m.length, []⟩)
    (o'.map fun m => ⟨m.length, []⟩) := by
  cases h with
  | neither => exact .neither
  | both _ hrest => exact .both .nil hrest

/-- Two matches one after the other. -/
theorem both' {m m' : Matched} (htrees : List.Forall₂ (Tree.Alike w) m.trees m'.trees)
    (h : MatchAlike w (cs.drop m.length) (ds.drop m'.length) o o') :
    MatchAlike w cs ds (o.map fun k => ⟨m.length + k.length, m.trees ++ k.trees⟩)
      (o'.map fun k => ⟨m'.length + k.length, m'.trees ++ k.trees⟩) := by
  cases h with
  | neither => exact .neither
  | both htrees' hrest =>
    rw [List.drop_drop, List.drop_drop] at hrest
    exact .both (List.rel_append htrees htrees') hrest

end MatchAlike

/-- The matches are alike, or no template is closed in what is left. -/
def MatchAlikeOrOpen (w cs ds : List Char) (o o' : Option Matched) : Prop :=
  MatchAlike w cs ds o o' ∨ Unclosed cs ds o o'

theorem alikeOrOpen_templateText (hw : AllBlank w) (h : Beside w cs ds) :
    MatchAlikeOrOpen w cs ds ((token .templateText).match? cs)
      ((token .templateText).match? ds) := by
  have hleft : ∀ es, leftOf es ((token .templateText).match? es) = es.drop (templateLength es) := by
    intro es
    rw [match?_token, Token.length?, leftOf]
    split <;> simp_all
  rcases h with rfl | ⟨rfl, hds⟩
  · rcases templateLength_append hw cs with hsame | ⟨hno, hno'⟩
    · left
      rw [match?_token, match?_token, Token.length?, Token.length?, hsame]
      have hle := templateLength_le cs
      split
      · exact .neither
      · rename_i n hn
        rw [hn] at hle
        exact .both (.cons (.leaf _ hle) .nil) (Beside.drop (.inl rfl) hle)
    · right
      rw [Unclosed, hleft, hleft]
      exact ⟨hno, hno'⟩
  · right
    rw [Unclosed, hleft, hleft, List.drop_nil]
    exact ⟨by simp, not_mem_of_blank (hds.drop _)⟩

/-- Where there is no closing mark none is matched. -/
theorem match?_mark_of_not_mem (h : '\x60' ∉ cs) : (text ['\x60']).match? cs = none := by
  refine refuses_text.2 fun hfront => h ?_
  obtain ⟨rest, rfl⟩ := hfront
  exact List.mem_cons_self

/-- An open template is not closed by the next mark. -/
theorem match?_both_mark (h : '\x60' ∉ leftOf cs (p.match? cs)) :
    (both p (text ['\x60'])).match? cs = none := by
  cases hm : p.match? cs with
  | none => exact match?_both_of_none hm
  | some m =>
    have hno : '\x60' ∉ cs.drop m.length := by
      rw [hm] at h
      exact h
    rw [match?_both_of_some hm, match?_mark_of_not_mem hno]
    rfl

/-- A repetition leaves no more than its first round does. -/
theorem leftOf_many (hp : p.mayBeEmpty = false) (cs : List Char) :
    leftOf cs ((many p).match? cs) <:+ leftOf cs (p.match? cs) := by
  cases hm : p.match? cs with
  | none =>
    rw [match?_many_of_stop fun m h => by rw [hm] at h; cases h]
    exact List.suffix_rfl
  | some m =>
    rw [match?_many_of_some hm (match?_pos hp hm), match?_many, Option.map_some]
    show cs.drop (m.length + _) <:+ cs.drop m.length
    rw [← List.drop_drop]
    exact List.drop_suffix _ _

/-! ## The whole match -/

/-- What a pattern comes to in front of a text and in front of the text with blanks behind it. -/
structure Follows (w : List Char) (p : Pattern) (cs : List Char) : Prop where
  alike : p.steady = true → ∀ ds, Beside w cs ds → MatchAlike w cs ds (p.match? cs) (p.match? ds)
  alikeOrOpen : p ∈ templateParts → ∀ ds, Beside w cs ds →
    MatchAlikeOrOpen w cs ds (p.match? cs) (p.match? ds)

namespace Follows

theorem text (hw : AllBlank w) (v cs : List Char) : Follows w (.text v) cs :=
  ⟨fun hv _ h => .text hv hw h, fun hmem => by simp [templateParts] at hmem⟩

theorem token (hw : AllBlank w) (t : Token) (cs : List Char) : Follows w (.token t) cs := by
  refine ⟨fun ht ds h => .token (by simpa [Pattern.steady] using ht) hw h, fun hmem ds h => ?_⟩
  obtain rfl : t = .templateText := by
    simpa [templateParts] using hmem
  exact alikeOrOpen_templateText hw h

theorem rule {r : Rule} (h : Follows w r.pattern cs) : Follows w (.rule r) cs := by
  refine ⟨fun hr ds hbeside => ?_, fun hmem ds hbeside => ?_⟩
  · have hsteady := steady_pattern (by simpa [Pattern.steady] using hr)
    exact .rule (h.alike hsteady ds hbeside) hbeside
  · obtain rfl : r = .templateSpan := by
      simpa [templateParts] using hmem
    have hlength : ∀ es, leftOf es ((Pattern.rule .templateSpan).match? es)
        = leftOf es (Rule.templateSpan.pattern.match? es) := by
      intro es
      rw [match?_rule, leftOf, leftOf, Option.map_map]
      rfl
    have hspan : Rule.templateSpan.pattern ∈ templateParts :=
      List.mem_cons_of_mem _ List.mem_cons_self
    refine (h.alikeOrOpen hspan ds hbeside).imp (fun h => .rule h hbeside) ?_
    rintro ⟨hno, hno'⟩
    exact ⟨hlength cs ▸ hno, hlength ds ▸ hno'⟩

theorem drop (hw : AllBlank w) (h : Follows w p cs) : Follows w (.drop p) cs := by
  refine ⟨fun hp ds hbeside => ?_, fun hmem => ?_⟩
  · rw [Pattern.steady, Bool.or_eq_true, decide_eq_true_eq] at hp
    rcases hp with hp | hp
    · simp only [List.mem_cons, List.not_mem_nil, or_false] at hp
      rcases hp with rfl | rfl | rfl
      · exact matchAlike_of_endsBeside (.inr ⟨_, _, ends_token.2 ⟨_, rfl, rfl⟩,
          ends_token.2 ⟨_, rfl, rfl⟩, hbeside.skip hw⟩)
      · exact matchAlike_of_endsBeside (.inr ⟨_, _, ends_token.2 ⟨_, rfl, rfl⟩,
          ends_token.2 ⟨_, rfl, rfl⟩, hbeside.skipLine hw⟩)
      · exact matchAlike_of_endsBeside (.statementEnd hw hbeside)
    · rw [match?_drop, match?_drop]
      exact (h.alike hp ds hbeside).drop
  · simp [templateParts] at hmem

theorem empty (cs : List Char) : Follows w .empty cs := by
  refine ⟨fun _ ds hbeside => .both .nil hbeside, fun hmem => ?_⟩
  simp [templateParts] at hmem

theorem both (hp : Follows w p cs)
    (hq : ∀ m, p.match? cs = some m → Follows w q (cs.drop m.length)) :
    Follows w (.both p q) cs := by
  refine ⟨fun hsteady ds hbeside => ?_, fun hmem => ?_⟩
  · rw [Pattern.steady, Bool.and_eq_true, Bool.or_eq_true, Bool.and_eq_true, decide_eq_true_eq,
      decide_eq_true_eq] at hsteady
    obtain ⟨hfirst, hsecond⟩ := hsteady
    have hboth : MatchAlike w cs ds (p.match? cs) (p.match? ds) →
        MatchAlike w cs ds ((Pattern.both p q).match? cs) ((Pattern.both p q).match? ds) := by
      intro halike
      generalize hm : p.match? cs = o at halike
      generalize hm' : p.match? ds = o' at halike
      cases halike with
      | neither =>
        rw [match?_both_of_none hm, match?_both_of_none hm']
        exact .neither
      | both htrees hrest =>
        rw [match?_both_of_some hm, match?_both_of_some hm']
        exact .both' htrees ((hq _ hm).alike hsecond _ hrest)
    rcases hfirst with hfirst | ⟨hfirst, rfl⟩
    · exact hboth (hp.alike hfirst ds hbeside)
    · rcases hp.alikeOrOpen hfirst ds hbeside with halike | ⟨hno, hno'⟩
      · exact hboth halike
      · rw [match?_both_mark hno, match?_both_mark hno']
        exact .neither
  · simp [templateParts] at hmem

/-- Of alternatives the first that matches is the same. -/
theorem either_of {R : Option Matched → Option Matched → Prop}
    (hR : ∀ o o', MatchAlike w cs ds o o' → R o o')
    (hp : MatchAlike w cs ds (p.match? cs) (p.match? ds))
    (hq : p.match? cs = none → R (q.match? cs) (q.match? ds)) :
    R ((Pattern.either p q).match? cs) ((Pattern.either p q).match? ds) := by
  generalize hm : p.match? cs = o at hp hq
  generalize hm' : p.match? ds = o' at hp
  cases hp with
  | neither =>
    rw [match?_either_of_none hm, match?_either_of_none hm']
    exact hq rfl
  | both htrees hrest =>
    rw [match?_either_of_some hm, match?_either_of_some hm']
    exact hR _ _ (.both htrees hrest)

theorem either (hp : Follows w p cs) (hq : p.match? cs = none → Follows w q cs) :
    Follows w (.either p q) cs := by
  refine ⟨fun hsteady ds hbeside => ?_, fun hmem ds hbeside => ?_⟩
  · rw [Pattern.steady, Bool.and_eq_true] at hsteady
    exact either_of (fun _ _ h => h) (hp.alike hsteady.1 ds hbeside)
      fun hno => (hq hno).alike hsteady.2 ds hbeside
  · obtain ⟨rfl, rfl⟩ : p = .rule .templateSubstitution ∧ q = .token .templateText := by
      simpa [templateParts] using hmem
    exact either_of (fun _ _ => .inl) (hp.alike (by decide) ds hbeside)
      fun hno => (hq hno).alikeOrOpen (by simp [templateParts]) ds hbeside

theorem optional (hp : Follows w p cs) : Follows w (.optional p) cs := by
  refine ⟨fun hsteady ds hbeside => ?_, fun hmem => ?_⟩
  · rw [match?_optional, match?_optional]
    have halike := hp.alike hsteady ds hbeside
    generalize p.match? cs = o at halike ⊢
    generalize p.match? ds = o' at halike ⊢
    cases halike with
    | neither => exact .both .nil hbeside
    | both htrees hrest => exact .both htrees hrest
  · simp [templateParts] at hmem

theorem absent (hp : Follows w p cs) : Follows w (.absent p) cs := by
  refine ⟨fun hsteady ds hbeside => ?_, fun hmem => ?_⟩
  · have halike := hp.alike hsteady ds hbeside
    generalize hm : p.match? cs = o at halike
    generalize hm' : p.match? ds = o' at halike
    cases halike with
    | neither =>
      rw [match?_absent_of_none hm, match?_absent_of_none hm']
      exact .both .nil hbeside
    | both =>
      rw [match?_absent_of_some hm, match?_absent_of_some hm']
      exact .neither
  · simp [templateParts] at hmem

/-- One more round. -/
def moreRounds (p : Pattern) (es : List Char) (m : Matched) : Option Matched :=
  ((Pattern.many p).match? (es.drop m.length)).map
    fun k => ⟨m.length + k.length, m.trees ++ k.trees⟩

theorem many_of {R : Option Matched → Option Matched → Prop}
    (hR : ∀ o o', MatchAlike w cs ds o o' → R o o') (hempty : p.mayBeEmpty = false)
    (hbeside : Beside w cs ds) (hp : MatchAlike w cs ds (p.match? cs) (p.match? ds))
    (hmore : ∀ m m', p.match? cs = some m → List.Forall₂ (Tree.Alike w) m.trees m'.trees →
      Beside w (cs.drop m.length) (ds.drop m'.length) →
      R (moreRounds p cs m) (moreRounds p ds m')) :
    R ((Pattern.many p).match? cs) ((Pattern.many p).match? ds) := by
  generalize hm : p.match? cs = o at hp hmore
  generalize hm' : p.match? ds = o' at hp
  cases hp with
  | neither =>
    have hstop : ∀ {es}, p.match? es = none → (Pattern.many p).match? es = some ⟨0, []⟩ :=
      fun hno => match?_many_of_stop fun m h => by rw [hno] at h; cases h
    rw [hstop hm, hstop hm']
    exact hR _ _ (.both .nil hbeside)
  | both htrees hrest =>
    rw [match?_many_of_some hm (match?_pos hempty hm),
      match?_many_of_some hm' (match?_pos hempty hm')]
    exact hmore _ _ rfl htrees hrest

theorem leftOf_moreRounds (es : List Char) (m : Matched) : leftOf es (moreRounds p es m)
    = leftOf (es.drop m.length) ((Pattern.many p).match? (es.drop m.length)) := by
  rw [moreRounds, match?_many, Option.map_some]
  exact List.drop_drop.symm

theorem many (hempty : p.mayBeEmpty = false) (hp : Follows w p cs)
    (hmore : ∀ m, p.match? cs = some m → Follows w (.many p) (cs.drop m.length)) :
    Follows w (.many p) cs := by
  refine ⟨fun hsteady ds hbeside => ?_, fun hmem ds hbeside => ?_⟩
  · refine many_of (fun _ _ h => h) hempty hbeside (hp.alike hsteady ds hbeside)
      fun m m' hm htrees hrest => ?_
    exact .both' htrees ((hmore m hm).alike hsteady _ hrest)
  · obtain rfl : p = .rule .templateSpan := by
      simpa [templateParts] using hmem
    rcases hp.alikeOrOpen (by simp [templateParts]) ds hbeside with halike | ⟨hno, hno'⟩
    · refine many_of (R := MatchAlikeOrOpen w cs ds) (fun _ _ => .inl) hempty hbeside halike
        fun m m' hm htrees hrest => ?_
      rcases (hmore m hm).alikeOrOpen (by simp [templateParts]) _ hrest with halike | ⟨hno, hno'⟩
      · exact .inl (.both' htrees halike)
      · exact .inr ⟨by rwa [leftOf_moreRounds], by rwa [leftOf_moreRounds]⟩
    · exact .inr ⟨fun h => hno ((leftOf_many hempty cs).subset h),
        fun h => hno' ((leftOf_many hempty ds).subset h)⟩

end Follows

/-- Every pattern follows: by the steps of its match in front of the shorter text. -/
theorem follows_of_yields (hw : AllBlank w) (h : Yields p cs o) (hp : p.Advances) :
    Follows w p cs := by
  induction h with
  | text v cs => exact .text hw v cs
  | token t cs => exact .token hw t cs
  | rule _ ih => exact .rule (ih (Rule.advances _))
  | drop _ ih => exact .drop hw (ih hp)
  | empty cs => exact .empty cs
  | bothFails hfirst ih =>
    refine .both (ih hp.left_both) fun m hm => ?_
    rw [← hfirst.eq_match? hp.left_both] at hm
    cases hm
  | both hfirst _ ihp ihq =>
    refine .both (ihp hp.left_both) fun m hm => ?_
    rw [← hfirst.eq_match? hp.left_both, Option.some.injEq] at hm
    exact hm ▸ ihq hp.right_both
  | first hfirst ih =>
    refine .either (ih hp.left_either) fun hno => ?_
    rw [← hfirst.eq_match? hp.left_either] at hno
    cases hno
  | second _ _ ihp ihq => exact .either (ihp hp.left_either) fun _ => ihq hp.right_either
  | optional _ ih => exact .optional (ih hp)
  | stop hround ih =>
    refine .many hp.not_mayBeEmpty (ih hp.of_many) fun m hm => ?_
    rw [← hround.eq_match? hp.of_many] at hm
    cases hm
  | more hround _ ih ihmore =>
    refine .many hp.not_mayBeEmpty (ih hp.of_many) fun m hm => ?_
    rw [← hround.eq_match? hp.of_many, Option.some.injEq] at hm
    exact hm ▸ ihmore hp
  | present _ ih | absent _ ih => exact .absent (ih hp)

/-- **Blanks behind a text change nothing in its match.** -/
theorem matchAlike_append (hw : AllBlank w) (hp : p.Advances) (hsteady : p.steady = true)
    (cs : List Char) : MatchAlike w cs (cs ++ w) (p.match? cs) (p.match? (cs ++ w)) :=
  (follows_of_yields hw (yields_match? hp cs) hp).alike hsteady _ (.inl rfl)

end LoopBound.Grammar
