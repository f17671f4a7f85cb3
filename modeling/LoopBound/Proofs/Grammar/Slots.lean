import LoopBound.Proofs.Grammar.Listed
import LoopBound.Proofs.Grammar.Takes

/-!
# Slots in brackets

What the slots of an array take, told slot by slot: `SlotsTake p cs ts rest` when the slots from the
one at `cs` on, up to and including the closing bracket, keep the trees `ts` and leave `rest`. A
bracket pair with slots matches exactly where its slots take something (`takes_slots_iff`), so arrays
are taken apart and put together by the same four cases of a slot: filled or not, and a comma or the
bracket behind it.

An item of an array never begins with layout. That is read off the rules: `Pattern.isTight` follows
what a rule may begin with down to its first tokens, none of which takes a blank or a comment.
-/

namespace LoopBound.Grammar

open LoopBound.Text Pattern

variable {p q : Pattern} {cs mid rest next : List Char} {ts us : List Tree}

/-! ## No layout in front -/

/-- The token does not begin with a blank, nor with a comment. -/
def Token.isTight (t : Token) : Bool :=
  Lead.blank.askToken t = .refuses && (t = .regex || (Lead.mark '/').askToken t = .refuses)

/-- The pattern refuses every text with layout in front, if these rules do. -/
def Pattern.isTight (known : Rule → Bool) : Pattern → Bool
  | text w => Lead.blank.askText w = .refuses && (Lead.mark '/').askText w = .refuses
  | token t => t.isTight
  | rule r => known r
  | drop p => p.isTight known
  | both (absent _) q => q.isTight known
  | both (optional p) q => p.isTight known && q.isTight known
  | both p _ => p.isTight known
  | either p q => p.isTight known && q.isTight known
  | empty | optional _ | many _ | absent _ => false

/-- The rule refuses every text with layout in front, found by looking into rules so many levels
deep. -/
def Rule.isTight : Nat → Rule → Bool
  | 0, _ => false
  | n + 1, r => r.pattern.isTight (Rule.isTight n)

/-- Layout begins with a blank or a comment. -/
theorem front_of_layoutPiece (h : layoutPiece cs ≠ 0) :
    Lead.blank.Begins cs ∨ ∃ c ds, cs = '/' :: c :: ds ∧ (c == '*' || c == '/') = true := by
  unfold layoutPiece at h
  split at h
  · exact absurd rfl h
  · exact .inr ⟨_, _, rfl, rfl⟩
  · exact .inr ⟨_, _, rfl, rfl⟩
  · rename_i c ds _ _
    split at h
    · rename_i hblank
      exact .inl ⟨c, ds, rfl, hblank⟩
    · exact absurd rfl h

theorem refuses_of_token_isTight {t : Token} (ht : t.isTight = true) (h : layoutPiece cs ≠ 0) :
    (token t).Refuses cs := by
  rw [Token.isTight, Bool.and_eq_true, Bool.or_eq_true] at ht
  obtain ⟨hblank, hslash⟩ := ht
  rcases front_of_layoutPiece h with hfront | ⟨c, ds, rfl, hcomment⟩
  · exact Pattern.refuses_of_ask hfront (of_decide_eq_true hblank)
  · rcases hslash with hregex | hslash
    · -- Only a regular expression begins with a slash, and it does not go on like a comment.
      rw [of_decide_eq_true hregex, refuses_token, Token.length?, regexLength?]
      simp [startsIn, hcomment]
    · have hfront : (Lead.mark '/').Begins ('/' :: c :: ds) := ⟨c :: ds, rfl⟩
      exact Pattern.refuses_of_ask hfront (of_decide_eq_true hslash)

theorem Pattern.refuses_of_isTight {known : Rule → Bool} (h : layoutPiece cs ≠ 0)
    (hknown : ∀ r, known r = true → (rule r).Refuses cs) (p : Pattern)
    (hp : p.isTight known = true) : p.Refuses cs := by
  fun_induction Pattern.isTight known p with
  | case1 w =>
    rw [Bool.and_eq_true] at hp
    rcases front_of_layoutPiece h with hfront | ⟨c, ds, rfl, -⟩
    · exact Pattern.refuses_of_ask hfront (of_decide_eq_true hp.1)
    · have hfront : (Lead.mark '/').Begins ('/' :: c :: ds) := ⟨c :: ds, rfl⟩
      exact Pattern.refuses_of_ask hfront (of_decide_eq_true hp.2)
  | case2 t => exact refuses_of_token_isTight hp h
  | case3 r => exact hknown r hp
  | case4 p ih => exact refuses_drop.2 (ih hp)
  | case5 p q ih =>
    refine refuses_both.2 ?_
    rcases refuses_or_ends (absent p) cs with hr | ⟨mid, hends⟩
    · exact .inl hr
    · obtain ⟨-, rfl⟩ := ends_absent.1 hends
      exact .inr ⟨_, hends, ih hp⟩
  | case6 p q ihp ihq =>
    rw [Bool.and_eq_true] at hp
    exact refuses_both.2 (.inr ⟨cs, ends_optional.2 (.inr ⟨ihp hp.1, rfl⟩), ihq hp.2⟩)
  | case7 p q _ _ ih => exact refuses_both.2 (.inl (ih hp))
  | case8 p q ihp ihq =>
    rw [Bool.and_eq_true] at hp
    exact refuses_either.2 ⟨ihp hp.1, ihq hp.2⟩
  | case9 | case10 | case11 | case12 => cases hp

theorem Rule.refuses_of_isTight (h : layoutPiece cs ≠ 0) (n : Nat) (r : Rule)
    (hr : r.isTight n = true) : (rule r).Refuses cs := by
  induction n generalizing r with
  | zero => cases hr
  | succ n ih =>
    rw [refuses_rule]
    exact Pattern.refuses_of_isTight h ih r.pattern hr

/-- Where an item of an array is read no layout stands in front. -/
theorem skip_of_arrayElement (h : (rule .arrayElement).Ends cs rest) : skip cs = cs := by
  have htight : Rule.isTight 20 .arrayElement = true := by decide +kernel
  by_contra hskip
  have hpiece : layoutPiece cs ≠ 0 := fun hzero => hskip (skip_of_layoutPiece hzero)
  exact (Rule.refuses_of_isTight hpiece 20 .arrayElement htight).not_ends h

/-! ## Putting matches together -/

namespace Pattern

theorem takes_both_of (hp : p.Takes cs ts mid) (hq : q.Takes mid us rest) :
    (both p q).Takes cs (ts ++ us) rest := by
  obtain ⟨first, hfirst, rfl, rfl⟩ := hp
  obtain ⟨second, hsecond, rfl, rfl⟩ := hq
  refine ⟨_, by rw [match?_both_of_some hfirst, hsecond, Option.map_some], rfl, ?_⟩
  rw [List.drop_drop]

theorem takes_word_of {s : String} {c : Char} (h : s.toList = [c]) (cs : List Char) :
    (word s).Takes (c :: cs) [] cs := by
  refine ⟨⟨1, []⟩, ?_, rfl, rfl⟩
  rw [word, match?_text, h]
  simp [spelled?]

theorem takes_layout_both_of (h : p.Takes (skip cs) ts rest) : (both layout p).Takes cs ts rest :=
  takes_both_of ⟨_, match?_layout cs, rfl, rfl⟩ h

theorem takes_optional_of (h : p.Takes cs ts rest) : (optional p).Takes cs ts rest := by
  obtain ⟨m, hm, htrees, hrest⟩ := h
  exact ⟨m, by rw [match?_optional, hm, Option.getD_some], htrees, hrest⟩

theorem takes_optional_of_refuses (h : p.Refuses cs) : (optional p).Takes cs [] cs :=
  ⟨⟨0, []⟩, by rw [match?_optional, h, Option.getD_none], rfl, rfl⟩

theorem takes_many_of_refuses (h : p.Refuses cs) : (many p).Takes cs [] cs := by
  refine ⟨⟨0, []⟩, match?_many_of_stop fun m hm => ?_, rfl, rfl⟩
  rw [h] at hm
  cases hm

theorem takes_many_of (hp : p.mayBeEmpty = false) (h : p.Takes cs ts mid)
    (hmany : (many p).Takes mid us rest) : (many p).Takes cs (ts ++ us) rest := by
  obtain ⟨first, hfirst, rfl, rfl⟩ := h
  obtain ⟨more, hmore, rfl, rfl⟩ := hmany
  have hstep := match?_many_of_some hfirst (match?_pos hp hfirst)
  rw [hmore, Option.map_some] at hstep
  refine ⟨_, hstep, rfl, ?_⟩
  rw [List.drop_drop]

/-- A repetition takes a round and goes on, or it stops where the pattern refuses. -/
theorem takes_many (hp : p.mayBeEmpty = false) (h : (many p).Takes cs ts rest) :
    (∃ us vs mid, ts = us ++ vs ∧ p.Takes cs us mid ∧ (many p).Takes mid vs rest)
      ∨ p.Refuses cs ∧ ts = [] ∧ cs = rest := by
  obtain ⟨m, hm, rfl, rfl⟩ := h
  cases hfirst : p.match? cs with
  | none =>
    have hstop : (many p).match? cs = some ⟨0, []⟩ :=
      match?_many_of_stop fun m hm => by rw [hfirst] at hm; cases hm
    rw [hstop, Option.some.injEq] at hm
    subst hm
    exact .inr ⟨hfirst, rfl, rfl⟩
  | some first =>
    rw [match?_many_of_some hfirst (match?_pos hp hfirst), Option.map_eq_some_iff] at hm
    obtain ⟨more, hmore, rfl⟩ := hm
    exact .inl ⟨_, _, _, rfl, ⟨first, hfirst, rfl, rfl⟩, more, hmore, rfl, by rw [List.drop_drop]⟩

/-! ## Slot by slot -/

/-- The tree of a comma. -/
def commaTree (next : List Char) : Tree :=
  .node .comma (',' :: next) 1 []

theorem takes_comma : (rule .comma).Takes cs ts rest ↔ cs = ',' :: rest ∧ ts = [commaTree rest] := by
  have hmatch (next : List Char) :
      (rule .comma).match? (',' :: next) = some ⟨1, [commaTree next]⟩ := by
    have hword : Rule.comma.pattern.match? (',' :: next) = some ⟨1, []⟩ := by
      rw [Rule.pattern, word, match?_text]
      rfl
    rw [match?_rule, hword]
    rfl
  constructor
  · intro h
    obtain rfl : cs = ',' :: rest := (ends_word rfl).1 (ends_rule.1 h.ends)
    obtain ⟨m, hm, rfl, -⟩ := h
    rw [hmatch, Option.some.injEq] at hm
    rw [← hm]
    exact ⟨rfl, rfl⟩
  · rintro ⟨rfl, rfl⟩
    exact ⟨_, hmatch rest, rfl, rfl⟩

theorem takes_nextSlot : (nextSlot p).Takes cs ts rest
    ↔ ∃ next us, skip cs = ',' :: next ∧ ts = commaTree next :: us
      ∧ (optional p).Takes (skip next) us rest := by
  constructor
  · intro h
    obtain ⟨us, vs, next, rfl, hcomma, hslot⟩ := takes_both (takes_layout_both h)
    obtain ⟨hcs, rfl⟩ := takes_comma.1 hcomma
    exact ⟨next, vs, hcs, rfl, takes_layout_both hslot⟩
  · rintro ⟨next, us, hcs, rfl, hslot⟩
    exact takes_layout_both_of
      (takes_both_of (takes_comma.2 ⟨hcs, rfl⟩) (takes_layout_both_of hslot))

end Pattern

/-- The slots from the one at the front of the text on, up to and including the closing bracket. -/
inductive SlotsTake (p : Pattern) : List Char → List Tree → List Char → Prop
  /-- The last slot, filled or not. -/
  | close {cs mid rest : List Char} {ts : List Tree} (h : (optional p).Takes cs ts mid)
      (hclose : skip mid = ']' :: rest) : SlotsTake p cs ts rest
  /-- A slot, filled or not, with a comma behind it. -/
  | comma {cs mid next rest : List Char} {ts us : List Tree} (h : (optional p).Takes cs ts mid)
      (hcomma : skip mid = ',' :: next) (hmore : SlotsTake p (skip next) us rest) :
      SlotsTake p cs (ts ++ commaTree next :: us) rest

/-- The slots behind the first one, and the closing bracket. -/
def moreSlots (p : Pattern) : Pattern :=
  both (many (nextSlot p)) (both layout (word "]"))

theorem slotsTake_of_moreSlots (h : (optional p).Takes cs ts mid)
    (hmore : (moreSlots p).Takes mid us rest) : SlotsTake p cs (ts ++ us) rest := by
  induction hn : mid.length using Nat.strongRecOn generalizing cs ts mid us with
  | ind n ih =>
    subst hn
    obtain ⟨vs, ws, last, rfl, hmany, hend⟩ := takes_both hmore
    rcases takes_many rfl hmany with ⟨round, later, further, rfl, hround, hlater⟩ | ⟨-, rfl, rfl⟩
    · have hlt : further.length < mid.length := hround.ends.length_lt rfl
      obtain ⟨next, slot, hcomma, rfl, hslot⟩ := takes_nextSlot.1 hround
      have hrest : SlotsTake p (skip next) (slot ++ (later ++ ws)) rest :=
        ih _ hlt hslot (takes_both_of hlater hend) rfl
      have htake := SlotsTake.comma h hcomma hrest
      rwa [← List.append_assoc slot] at htake
    · obtain ⟨rfl, hclose⟩ := takes_word (takes_layout_both hend)
      rw [List.nil_append, List.append_nil]
      exact .close h hclose

theorem moreSlots_of_slotsTake (h : SlotsTake p cs ts rest) :
    ∃ us vs mid, ts = us ++ vs ∧ (optional p).Takes cs us mid ∧ (moreSlots p).Takes mid vs rest := by
  induction h with
  | @close cs mid rest ts h hclose =>
    have hstop : (nextSlot p).Refuses mid := by
      refine (refuses_or_ends _ _).resolve_right ?_
      rintro ⟨rest', hends⟩
      obtain ⟨next, hcomma, -⟩ := ends_nextSlot.1 hends
      rw [hclose] at hcomma
      exact absurd (List.cons.inj hcomma).1 (by decide)
    have hend : (both layout (word "]")).Takes mid [] rest :=
      takes_layout_both_of (hclose ▸ takes_word_of rfl rest)
    exact ⟨ts, [], mid, (List.append_nil ts).symm, h,
      takes_both_of (takes_many_of_refuses hstop) hend⟩
  | @comma cs mid next rest ts us h hcomma _ ih =>
    obtain ⟨slot, later, further, rfl, hslot, hmore⟩ := ih
    obtain ⟨vs, ws, last, rfl, hmany, hend⟩ := takes_both hmore
    have hround : (nextSlot p).Takes mid (commaTree next :: slot) further :=
      takes_nextSlot.2 ⟨next, slot, hcomma, rfl, hslot⟩
    refine ⟨ts, (commaTree next :: slot ++ vs) ++ ws, mid, ?_, h,
      takes_both_of (takes_many_of rfl hround hmany) hend⟩
    rw [List.cons_append, List.cons_append, List.append_assoc]

/-- Brackets match what their slots take. -/
theorem takes_slots_iff : (slots p).Takes cs ts rest
    ↔ ∃ ds, cs = '[' :: ds ∧ SlotsTake p (skip ds) ts rest := by
  constructor
  · intro h
    obtain ⟨ds, hopen, h⟩ := takes_word_both h
    obtain ⟨us, vs, mid, rfl, hslot, hmore⟩ := takes_both (takes_layout_both h)
    exact ⟨ds, hopen, slotsTake_of_moreSlots hslot hmore⟩
  · rintro ⟨ds, rfl, h⟩
    obtain ⟨us, vs, mid, rfl, hslot, hmore⟩ := moreSlots_of_slotsTake h
    have hopen : (word "[").Takes ('[' :: ds) [] ds := takes_word_of rfl ds
    have hslots : (both layout (both (optional p) (moreSlots p))).Takes ds (us ++ vs) rest :=
      takes_layout_both_of (takes_both_of hslot hmore)
    have hwhole := takes_both_of hopen hslots
    rwa [List.nil_append] at hwhole

end LoopBound.Grammar
