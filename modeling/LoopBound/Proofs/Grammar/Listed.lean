import LoopBound.Proofs.Grammar.Skips

/-!
# Lists between brackets

Parameters, arguments, and the items of objects and arrays are lists with commas between them, up to
a closing character. `Listed` says where such a list ends, whatever pattern it is written with:
separated by commas, with a comma at the end or without, and with or without empty slots.

Two lists of items that begin at the same place and end at the same character end at the same place
as soon as their items do (`Listed.same_end`).
-/

namespace LoopBound.Grammar

open Pattern

/-- A list of `p`, each but the last with a comma behind it, and the closing character. -/
inductive Listed (p : Pattern) (close : Char) : List Char → List Char → Prop
  /-- The end, or an empty last slot. -/
  | close (rest : List Char) : Listed p close (close :: rest) rest
  /-- The last item. -/
  | last {cs mid rest : List Char} (h : p.Ends cs mid) (hclose : skip mid = close :: rest) :
      Listed p close cs rest
  /-- An empty slot. -/
  | slot {cs rest : List Char} (hmore : Listed p close (skip cs) rest) :
      Listed p close (',' :: cs) rest
  /-- An item with others behind it. -/
  | item {cs mid next rest : List Char} (h : p.Ends cs mid) (hcomma : skip mid = ',' :: next)
      (hmore : Listed p close (skip next) rest) : Listed p close cs rest

/-- What may stand behind an item of a list. -/
def listMarks : List Lead :=
  [.mark ',', .mark ')', .mark ']', .mark '\x7d']

/-- What closes a list. -/
def closers : List Char :=
  [')', ']', '\x7d']

variable {p q : Pattern} {close : Char} {cs mid rest rest' : List Char}

theorem front_comma (cs : List Char) : Front listMarks (',' :: cs) :=
  (front_mark ',' cs).mono (by decide)

theorem front_closer (h : close ∈ closers) (cs : List Char) : Front listMarks (close :: cs) := by
  simp only [closers, List.mem_cons, List.not_mem_nil, or_false] at h
  rcases h with rfl | rfl | rfl
  · exact (front_mark _ cs).mono (by decide)
  · exact (front_mark _ cs).mono (by decide)
  · exact (front_mark _ cs).mono (by decide)

namespace Listed

theorem imp (h : Listed p close cs rest) (himp : ∀ ds mid, p.Ends ds mid → q.Ends ds mid) :
    Listed q close cs rest := by
  induction h with
  | close => exact .close _
  | last h hclose => exact .last (himp _ _ h) hclose
  | slot _ ih => exact .slot ih
  | item h hcomma _ ih => exact .item (himp _ _ h) hcomma ih

/-- **Lists with the same items end at the same place.** The items need to end together only where
both have a comma or the end of the list behind them. -/
theorem same_end (hclose : close ∈ closers)
    (hp : listMarks.all (fun l => p.ask l = .refuses) = true)
    (hq : listMarks.all (fun l => q.ask l = .refuses) = true)
    (hitems : ∀ ds, ds.length ≤ cs.length → ∀ mid mid', p.Ends ds mid → q.Ends ds mid' →
      Front listMarks (skip mid) → Front listMarks (skip mid') → mid = mid')
    (h : Listed p close cs rest) (h' : Listed q close cs rest') : rest = rest' := by
  have hne : close ≠ ',' := by
    rintro rfl
    exact absurd hclose (by decide)
  induction h with
  | close rest =>
    -- No item begins like this.
    cases h' with
    | close => rfl
    | last hitem => exact (front_closer hclose _).absurd hitem hq
    | slot => exact absurd rfl hne
    | item hitem => exact (front_closer hclose _).absurd hitem hq
  | @last cs mid rest hitem hend =>
    have hfront : Front listMarks (skip mid) := hend ▸ front_closer hclose rest
    cases h' with
    | close => exact (front_closer hclose _).absurd hitem hp
    | last hitem' hend' =>
      rw [hitems _ (Nat.le_refl _) _ _ hitem hitem' hfront (hend' ▸ front_closer hclose _),
        hend'] at hend
      exact (List.cons.inj hend).2.symm
    | slot => exact (front_comma _).absurd hitem hp
    | item hitem' hcomma =>
      -- The items end together, so one character would both close the list and not.
      rw [hitems _ (Nat.le_refl _) _ _ hitem hitem' hfront (hcomma ▸ front_comma _), hcomma] at hend
      exact absurd (List.cons.inj hend).1.symm hne
  | @slot cs rest hmore ih =>
    cases h' with
    | close => exact absurd rfl hne
    | last hitem => exact (front_comma _).absurd hitem hq
    | slot hmore' =>
      have hlen := length_skip_le cs
      exact ih (fun ds hds => hitems ds (by rw [List.length_cons]; omega)) hmore'
    | item hitem => exact (front_comma _).absurd hitem hq
  | @item cs mid next rest hitem hcomma hmore ih =>
    have hfront : Front listMarks (skip mid) := hcomma ▸ front_comma next
    cases h' with
    | close => exact (front_closer hclose _).absurd hitem hp
    | last hitem' hend =>
      rw [hitems _ (Nat.le_refl _) _ _ hitem hitem' hfront (hend ▸ front_closer hclose _), hend]
        at hcomma
      exact absurd (List.cons.inj hcomma).1 hne
    | slot => exact (front_comma _).absurd hitem hp
    | item hitem' hcomma' hmore' =>
      -- What is left is no longer, so the items in it end together as well.
      have hlen : (skip next).length ≤ cs.length := by
        have hmid := hitem.length_le
        have hskip := length_skip_le mid
        have hnext := length_skip_le next
        rw [hcomma, List.length_cons] at hskip
        omega
      rw [hitems _ (Nat.le_refl _) _ _ hitem hitem' hfront (hcomma' ▸ front_comma _), hcomma']
        at hcomma
      rw [(List.cons.inj hcomma).2] at hmore'
      exact ih (fun ds hds => hitems ds (hds.trans hlen)) hmore'

end Listed

/-! ## Lists of the grammar -/

/-- What stands in brackets. -/
theorem ends_enclosed {opening closing : String} {o c : Char} (ho : opening.toList = [o])
    (hc : closing.toList = [c]) :
    (sequence [word opening, layout, p, layout, word closing]).Ends cs rest
      ↔ ∃ ds mid, cs = o :: ds ∧ p.Ends (skip ds) mid ∧ skip mid = c :: rest := by
  simp only [Pattern.sequence, ends_both, ends_word ho, ends_word hc, ends_skip]
  constructor
  · rintro ⟨ds, hds, _, rfl, mid, hmid, _, rfl, hend⟩
    exact ⟨ds, mid, hds, hmid, hend⟩
  · rintro ⟨ds, mid, hds, hmid, hend⟩
    exact ⟨ds, hds, _, rfl, mid, hmid, _, rfl, hend⟩

/-- A comma and the next item. -/
def nextItem (p : Pattern) : Pattern :=
  sequence [layout, word ",", layout, p]

theorem ends_nextItem :
    (nextItem p).Ends cs rest ↔ ∃ next, skip cs = ',' :: next ∧ p.Ends (skip next) rest := by
  constructor
  · intro h
    obtain ⟨next, hcomma, hitem⟩ := ends_both.1 (ends_layout_both.1 h)
    exact ⟨next, (ends_word rfl).1 hcomma, ends_layout_both.1 hitem⟩
  · rintro ⟨next, hcomma, hitem⟩
    exact ends_layout_both.2 (ends_both.2 ⟨next, (ends_word rfl).2 hcomma,
      ends_layout_both.2 hitem⟩)

/-- Items with commas between them, and perhaps a comma at the end. -/
theorem listed_of_many {behind : List Char} (h : p.Ends cs behind)
    (hmany : (many (nextItem p)).Ends behind mid)
    (hend : skip mid = close :: rest ∨ ∃ next, skip mid = ',' :: next ∧ skip next = close :: rest) :
    Listed p close cs rest := by
  induction hn : behind.length using Nat.strongRecOn generalizing cs behind with
  | ind n ih =>
    subst hn
    rcases (ends_many rfl).1 hmany with ⟨further, hnext, hmore⟩ | ⟨-, rfl⟩
    · have hlt := hnext.length_lt rfl
      obtain ⟨next, hcomma, hitem⟩ := ends_nextItem.1 hnext
      exact .item h hcomma (ih _ hlt hitem hmore rfl)
    · rcases hend with hend | ⟨next, hcomma, hend⟩
      · exact .last h hend
      · exact .item h hcomma (hend ▸ .close rest)

theorem listed_of_commaSeparated (h : (commaSeparated p).Ends cs mid)
    (hend : skip mid = close :: rest) : Listed p close cs rest := by
  obtain ⟨behind, hfirst, hmany⟩ := ends_both.1 h
  exact listed_of_many hfirst hmany (.inl hend)

theorem listed_of_commaTerminated (h : (commaTerminated p).Ends cs mid)
    (hend : skip mid = close :: rest) : Listed p close cs rest := by
  obtain ⟨last, hlist, hcomma⟩ := ends_both.1 h
  obtain ⟨behind, hfirst, hmany⟩ := ends_both.1 hlist
  refine listed_of_many hfirst hmany ?_
  rcases ends_optional.1 hcomma with hcomma | ⟨-, rfl⟩
  · right
    obtain hcomma := ends_layout_both.1 hcomma
    exact ⟨mid, (ends_word rfl).1 hcomma, hend⟩
  · exact .inl hend

/-- Where a list may be missing the closing character follows at once. -/
theorem listed_of_optional (h : (optional p).Ends (skip cs) mid) (hend : skip mid = close :: rest)
    (hlist : p.Ends (skip cs) mid → Listed q close (skip cs) rest) :
    Listed q close (skip cs) rest := by
  rcases ends_optional.1 h with h | ⟨-, rfl⟩
  · exact hlist h
  · rw [skip_skip] at hend
    rw [hend]
    exact .close rest

/-- A comma and the next slot. -/
def nextSlot (p : Pattern) : Pattern :=
  sequence [layout, rule .comma, layout, optional p]

theorem ends_nextSlot : (nextSlot p).Ends cs rest
    ↔ ∃ next, skip cs = ',' :: next ∧ (optional p).Ends (skip next) rest := by
  constructor
  · intro h
    obtain ⟨next, hcomma, hslot⟩ := ends_both.1 (ends_layout_both.1 h)
    exact ⟨next, (ends_word rfl).1 (ends_rule.1 hcomma), ends_layout_both.1 hslot⟩
  · rintro ⟨next, hcomma, hslot⟩
    exact ends_layout_both.2 (ends_both.2 ⟨next, ends_rule.2 ((ends_word rfl).2 hcomma),
      ends_layout_both.2 hslot⟩)

theorem listed_of_manySlots {behind : List Char} (hcs : skip cs = cs)
    (h : (optional p).Ends cs behind) (hmany : (many (nextSlot p)).Ends behind mid)
    (hend : skip mid = close :: rest) : Listed p close cs rest := by
  induction hn : behind.length using Nat.strongRecOn generalizing cs behind with
  | ind n ih =>
    subst hn
    rcases (ends_many rfl).1 hmany with ⟨further, hnext, hmore⟩ | ⟨-, rfl⟩
    · have hlt := hnext.length_lt rfl
      obtain ⟨next, hcomma, hslot⟩ := ends_nextSlot.1 hnext
      have hlisted := ih _ hlt (skip_skip next) hslot hmore rfl
      rcases ends_optional.1 h with h | ⟨-, rfl⟩
      · exact .item h hcomma hlisted
      · rw [← hcs, hcomma]
        exact .slot hlisted
    · rcases ends_optional.1 h with h | ⟨-, rfl⟩
      · exact .last h hend
      · rw [← hcs, hend]
        exact .close rest

/-- Slots up to the closing bracket. -/
theorem listed_of_slots (h : (slots p).Ends cs rest) :
    ∃ ds, cs = '[' :: ds ∧ Listed p ']' (skip ds) rest := by
  obtain ⟨ds, hopen, h⟩ := ends_both.1 h
  obtain ⟨behind, hfirst, h⟩ := ends_both.1 (ends_layout_both.1 h)
  obtain ⟨mid, hmany, h⟩ := ends_both.1 h
  have hend := (ends_word rfl).1 (ends_layout_both.1 h)
  exact ⟨ds, (ends_word rfl).1 hopen, listed_of_manySlots (skip_skip ds) hfirst hmany hend⟩

end LoopBound.Grammar
