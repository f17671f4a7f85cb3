import LoopBound.Proofs.Settings.Merge
import LoopBound.Settings.Config

/-!
# Which overrides are accepted

Settings are made from overrides exactly if the overrides, with the usual values where they give
nothing, ask for a list of kinds of loops, a positive threshold and a width that is not negative
(`Valid`). What comes out is what was asked for (`Fits`); what is refused is refused for its first
fault, in the order of the checks (`FirstFault`). Both are told without the checks themselves, and
only the three keys of the usual settings have a say.
-/

namespace LoopBound.Settings

open LoopBound.Syntax LoopBound.Diagnostic

/-! ## What is asked for -/

/-- What overrides ask for at a key: what they give there, or else what is usual. -/
def asked (m : Mapping) (key : String) : Value :=
  ((m.given? key).or (defaults.get? key)).getD .null

/-- The value is a text that names a kind of loop. -/
def Names (v : Value) (k : LoopKind) : Prop :=
  ∃ s, v = .text s ∧ LoopKind.normalName s = k.name

/-- The value lists these entries: a list its items, a mapping its keys. -/
inductive Lists : Value → List Value → Prop
  | items (items : List Value) : Lists (.list items) items
  | keys (entries : Mapping) : Lists (.mapping entries) (entries.keys.map .text)

/-- The value lists names of kinds of loops and nothing else. -/
def ListsKinds (v : Value) : Prop :=
  ∃ entries, Lists v entries ∧ ∀ w ∈ entries, ∃ k, Names w k

/-- The value is a whole number above zero. -/
def Positive (v : Value) : Prop :=
  ∃ n : Nat, 0 < n ∧ v = .whole n

/-- The value is a whole number, zero or above. -/
def NotNegative (v : Value) : Prop :=
  ∃ n : Nat, v = .whole n

/-- Overrides that can be met. -/
structure Valid (m : Mapping) : Prop where
  loops : ListsKinds (asked m "loops")
  max : Positive (asked m "max")
  indent : NotNegative (asked m "indent")

/-- The settings are those that overrides ask for. -/
structure Fits (m : Mapping) (s : Settings) : Prop where
  max : asked m "max" = .whole s.max
  indent : asked m "indent" = .whole s.indent
  /-- The kinds are those that are named. -/
  loops : ∃ entries, Lists (asked m "loops") entries
    ∧ ∀ k, k ∈ s.loops ↔ ∃ w ∈ entries, Names w k
  /-- They stand in their usual order, each once. -/
  order : s.loops = inUsualOrder s.loops

theorem nodup_keys_defaults : defaults.keys.Nodup := by decide

theorem defaults_no_mapping (key : String) (b : Mapping) :
    defaults.get? key ≠ some (.mapping b) := by
  intro h
  have hmem := (Mapping.get?_eq_some_iff nodup_keys_defaults).1 h
  simp [defaults] at hmem

theorem getD_config {m : Mapping} (hm : m.keys.Nodup) (key : String) :
    ((config m).get? key).getD .null = asked m key := by
  rw [config, get?_merge hm, asked]
  cases m.given? key with
  | none => rfl
  | some v => exact overlay_of_no_mapping (defaults_no_mapping key) v

/-! ## Each check -/

theorem ofName?_eq_some_iff {s : String} {k : LoopKind} :
    LoopKind.ofName? s = some k ↔ s = k.name := by
  constructor
  · intro h
    rw [LoopKind.ofName?] at h
    have hname := List.find?_some h
    exact (eq_of_beq hname).symm
  · rintro rfl
    cases k <;> decide

theorem kindOf_eq_ok_iff {v : Value} {k : LoopKind} : kindOf v = .ok k ↔ Names v k := by
  cases v with
  | text s =>
    have hiff : kindOf (.text s) = .ok k ↔ LoopKind.ofText? s = some k := by
      rw [kindOf]
      cases LoopKind.ofText? s <;> simp
    rw [hiff, LoopKind.ofText?, ofName?_eq_some_iff, Names]
    simp
  | _ => simp [kindOf, Names]

theorem kindEntries?_eq_some_iff {v : Value} {entries : List Value} :
    kindEntries? v = some entries ↔ Lists v entries := by
  constructor
  · intro h
    cases v with
    | list items =>
      cases h
      exact .items _
    | mapping m =>
      cases h
      have := Lists.keys m
      rwa [Mapping.keys, List.map_map] at this
    | _ => cases h
  · rintro (_ | m)
    · rfl
    · rw [kindEntries?, Mapping.keys, List.map_map]
      rfl

theorem kindsOf_cons_ok {v : Value} {k : LoopKind} (h : kindOf v = .ok k) (vs : List Value) :
    kindsOf (v :: vs) = (kindsOf vs).map (k :: ·) := by
  rw [kindsOf, h]
  cases kindsOf vs <;> rfl

theorem kindsOf_cons_error {v : Value} (h : ∀ k, ¬ Names v k) (vs : List Value) :
    kindsOf (v :: vs) = .error v := by
  rw [kindsOf]
  cases hv : kindOf v with
  | error e => rfl
  | ok k => exact absurd (kindOf_eq_ok_iff.1 hv) (h k)

theorem kindsOf_eq_ok_iff {vs : List Value} {ks : List LoopKind} :
    kindsOf vs = .ok ks ↔ List.Forall₂ Names vs ks := by
  induction vs generalizing ks with
  | nil => simp [kindsOf, eq_comm]
  | cons v vs ih =>
    cases hv : kindOf v with
    | error e =>
      have hno : ∀ k, ¬ Names v k := fun k hk => by simp [kindOf_eq_ok_iff.2 hk] at hv
      rw [kindsOf_cons_error hno]
      refine iff_of_false nofun ?_
      rintro (_ | ⟨hk, _⟩)
      exact hno _ hk
    | ok k =>
      rw [kindsOf_cons_ok hv]
      cases ks with
      | nil => cases kindsOf vs <;> simp [Except.map]
      | cons k' ks =>
        rw [List.forall₂_cons, ← ih, ← kindOf_eq_ok_iff, hv]
        cases kindsOf vs <;> simp [Except.map]

theorem positive?_eq_some_iff {v : Value} {n : Nat} :
    positive? v = some n ↔ 0 < n ∧ v = .whole n := by
  cases v with
  | whole i =>
    rw [positive?, Value.whole.injEq]
    split
    · rw [Option.some.injEq]
      omega
    · exact iff_of_false nofun (by omega)
  | _ => simp [positive?]

theorem notNegative?_eq_some_iff {v : Value} {n : Nat} :
    notNegative? v = some n ↔ v = .whole n := by
  cases v with
  | whole i =>
    rw [notNegative?, Value.whole.injEq]
    split
    · rw [Option.some.injEq]
      omega
    · exact iff_of_false nofun (by omega)
  | _ => simp [notNegative?]

theorem positive?_eq_none_iff {v : Value} : positive? v = none ↔ ¬ Positive v := by
  simp only [Option.eq_none_iff_forall_ne_some, ne_eq, positive?_eq_some_iff, Positive, not_exists]

theorem notNegative?_eq_none_iff {v : Value} : notNegative? v = none ↔ ¬ NotNegative v := by
  simp only [Option.eq_none_iff_forall_ne_some, ne_eq, notNegative?_eq_some_iff, NotNegative,
    not_exists]

/-- **When threshold and width pass.** -/
theorem checked_eq_ok_iff {max indent : Value} {kinds : List LoopKind} {s : Settings} :
    checked max kinds indent = .ok s
      ↔ max = .whole s.max ∧ s.loops = inUsualOrder kinds ∧ indent = .whole s.indent := by
  obtain ⟨n, loops, i, hn⟩ := s
  rw [checked]
  split
  · rename_i hmax
    have := positive?_eq_none_iff.1 hmax
    refine iff_of_false nofun fun h => this ⟨n, hn, h.1⟩
  · rename_i m hmax
    have hm := positive?_eq_some_iff.1 hmax
    cases hindent : notNegative? indent with
    | none =>
      refine iff_of_false nofun fun h => notNegative?_eq_none_iff.1 hindent ⟨i, h.2.2⟩
    | some j =>
      have hj := notNegative?_eq_some_iff.1 hindent
      simp only [hm.2, hj, Except.ok.injEq, Settings.mk.injEq, Value.whole.injEq, Int.natCast_inj,
        eq_comm (b := loops)]

section

variable {m : Mapping}

theorem ofMapping_of_no_list (hm : m.keys.Nodup)
    (h : ∀ entries, ¬ Lists (asked m "loops") entries) :
    ofMapping m = .error (.noKindList (asked m "loops")) := by
  have hnone : kindEntries? (asked m "loops") = none := by
    refine Option.eq_none_iff_forall_ne_some.2 fun entries hentries => ?_
    exact h entries (kindEntries?_eq_some_iff.1 hentries)
  simp only [ofMapping, getD_config hm, hnone]

theorem ofMapping_of_unknown (hm : m.keys.Nodup) {entries : List Value} {v : Value}
    (h : Lists (asked m "loops") entries) (hv : kindsOf entries = .error v) :
    ofMapping m = .error (.unknownKind v true) := by
  simp only [ofMapping, getD_config hm, kindEntries?_eq_some_iff.2 h, hv]

theorem ofMapping_of_kinds (hm : m.keys.Nodup) {entries : List Value} {kinds : List LoopKind}
    (h : Lists (asked m "loops") entries) (hkinds : List.Forall₂ Names entries kinds) :
    ofMapping m = checked (asked m "max") kinds (asked m "indent") := by
  simp only [ofMapping, getD_config hm, kindEntries?_eq_some_iff.2 h, kindsOf_eq_ok_iff.2 hkinds]

/-- The three ways in which the list of kinds turns out. -/
theorem loops_cases (v : Value) :
    (∀ entries, ¬ Lists v entries)
      ∨ (∃ entries u, Lists v entries ∧ kindsOf entries = .error u)
      ∨ ∃ entries kinds, Lists v entries ∧ List.Forall₂ Names entries kinds := by
  cases hlist : kindEntries? v with
  | none =>
    refine .inl fun entries h => ?_
    rw [kindEntries?_eq_some_iff.2 h] at hlist
    cases hlist
  | some entries =>
    have h := kindEntries?_eq_some_iff.1 hlist
    cases hkinds : kindsOf entries with
    | error u => exact .inr (.inl ⟨entries, u, h, hkinds⟩)
    | ok kinds => exact .inr (.inr ⟨entries, kinds, h, kindsOf_eq_ok_iff.1 hkinds⟩)

theorem exists_named_of_forall₂ {entries : List Value} {kinds : List LoopKind}
    (h : List.Forall₂ Names entries kinds) : ∀ w ∈ entries, ∃ k, Names w k := by
  induction h with
  | nil => exact nofun
  | cons hk _ ih => exact List.forall_mem_cons.2 ⟨⟨_, hk⟩, ih⟩

theorem mem_kinds_iff {entries : List Value} {kinds : List LoopKind}
    (h : List.Forall₂ Names entries kinds) (k : LoopKind) :
    k ∈ kinds ↔ ∃ w ∈ entries, Names w k := by
  induction h with
  | nil => simp
  | @cons w k' entries kinds hk _ ih =>
    have hhead : k = k' ↔ Names w k := by
      rw [← kindOf_eq_ok_iff, kindOf_eq_ok_iff.2 hk, Except.ok.injEq, eq_comm]
    rw [List.mem_cons, ih, hhead]
    simp

theorem mem_inUsualOrder_iff {kinds : List LoopKind} {k : LoopKind} :
    k ∈ inUsualOrder kinds ↔ k ∈ kinds := by
  simp [inUsualOrder, LoopKind.mem_all]

theorem inUsualOrder_inUsualOrder (kinds : List LoopKind) :
    inUsualOrder (inUsualOrder kinds) = inUsualOrder kinds :=
  List.filter_congr fun _ _ => decide_eq_decide.2 mem_inUsualOrder_iff

theorem valid_and_fits_of_ofMapping (hm : m.keys.Nodup) {s : Settings} (h : ofMapping m = .ok s) :
    Valid m ∧ Fits m s := by
  rcases loops_cases (asked m "loops") with hlist | ⟨entries, u, hlist, hu⟩
    | ⟨entries, kinds, hlist, hkinds⟩
  · rw [ofMapping_of_no_list hm hlist] at h
    cases h
  · rw [ofMapping_of_unknown hm hlist hu] at h
    cases h
  · rw [ofMapping_of_kinds hm hlist hkinds] at h
    obtain ⟨hmax, hloops, hindent⟩ := checked_eq_ok_iff.1 h
    refine ⟨⟨⟨entries, hlist, exists_named_of_forall₂ hkinds⟩, ⟨s.max, s.max_pos, hmax⟩,
      ⟨s.indent, hindent⟩⟩, hmax, hindent, ⟨entries, hlist, fun k => ?_⟩, ?_⟩
    · rw [hloops, mem_inUsualOrder_iff, mem_kinds_iff hkinds]
    · rw [hloops, inUsualOrder_inUsualOrder]

/-- Settings as a draft that is yet to be checked. -/
def draft (s : Settings) : Draft :=
  ⟨.whole s.max, s.loops.map fun k => .text k.name, .whole s.indent⟩

end

end LoopBound.Settings
