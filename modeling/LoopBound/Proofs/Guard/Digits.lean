import LoopBound.Guard.Name
import Mathlib.Data.Nat.Digits.Defs

/-!
# The number in a name

What `numberIn?` reads out of a name, said without it: the name is the stem and at least one decimal
digit of whatever script, and the number is the value of those digits in base ten. Leading zeros
and mixed scripts are covered, since only the values of the digits count.

The other half is that printing a number and reading it back gives the number, so a guard name
carries exactly the number that it was made from, and no two numbers make the same name.
-/

namespace LoopBound.Guard

open LoopBound.Text

/-- The name is the stem followed by digits with these values, and they spell `n`. -/
def Spells (stem name : String) (n : Nat) : Prop :=
  ∃ (ds : List Char) (vs : List Nat), ds ≠ [] ∧ name.toList = stem.toList ++ ds
    ∧ ds.map digitValue? = vs.map some ∧ n = Nat.ofDigits 10 vs.reverse

/-! ## Reading digits -/

/-- Digits are read from the left, each step shifting what was read so far. -/
theorem ofDigits_reverse (vs : List Nat) :
    Nat.ofDigits 10 vs.reverse = vs.foldl (fun n v => n * 10 + v) 0 := by
  rw [Nat.ofDigits_eq_foldr, List.foldr_reverse]
  congr 1
  funext n v
  simp only [Nat.cast_id]
  omega

theorem foldlM_digitValue {ds : List Char} {n m : Nat} :
    ds.foldlM (fun n c => (digitValue? c).map (n * 10 + ·)) n = some m ↔
      ∃ vs : List Nat, ds.map digitValue? = vs.map some
        ∧ m = vs.foldl (fun n v => n * 10 + v) n := by
  induction ds generalizing n with
  | nil =>
    constructor
    · intro h
      exact ⟨[], rfl, (Option.some.inj h).symm⟩
    · rintro ⟨vs, hvs, rfl⟩
      have hnil : vs = [] := by simpa using hvs.symm
      subst hnil
      rfl
  | cons d ds ih =>
    rw [List.foldlM_cons]
    cases hd : digitValue? d with
    | none =>
      constructor
      · intro h
        simp at h
      · rintro ⟨vs, hvs, -⟩
        cases vs with
        | nil => simp at hvs
        | cons v vs => simp [hd] at hvs
    | some v =>
      rw [Option.map_some, Option.bind_eq_bind, Option.bind_some, ih]
      constructor
      · rintro ⟨vs, hvs, hm⟩
        exact ⟨v :: vs, by simp [hd, hvs], hm⟩
      · rintro ⟨vs, hvs, hm⟩
        cases vs with
        | nil => simp at hvs
        | cons w vs =>
          simp only [List.map_cons, hd, List.cons.injEq, Option.some.injEq] at hvs
          obtain ⟨rfl, hvs⟩ := hvs
          exact ⟨vs, hvs, hm⟩

theorem numberOf?_eq_some_iff {ds : List Char} {n : Nat} :
    numberOf? ds = some n ↔
      ds ≠ [] ∧ ∃ vs : List Nat, ds.map digitValue? = vs.map some
        ∧ n = Nat.ofDigits 10 vs.reverse := by
  unfold numberOf?
  cases ds with
  | nil => simp
  | cons d ds =>
    rw [List.isEmpty_cons, if_neg Bool.false_ne_true, foldlM_digitValue]
    simp only [ofDigits_reverse, ne_eq, reduceCtorEq, not_false_eq_true, true_and]

/-- `numberIn?` finds a number exactly where the name spells one. -/
theorem numberIn?_eq_some_iff {stem name : String} {n : Nat} :
    numberIn? stem name = some n ↔ Spells stem name n := by
  unfold numberIn? Spells
  constructor
  · intro h
    split at h
    · rename_i hpre
      obtain ⟨ds, hds⟩ := List.isPrefixOf_iff_prefix.1 hpre
      have hdrop : name.toList.drop stem.length = ds := by
        rw [← hds, ← String.length_toList, List.drop_left]
      rw [hdrop] at h
      obtain ⟨hne, vs, hvs, hn⟩ := numberOf?_eq_some_iff.1 h
      exact ⟨ds, vs, hne, hds.symm, hvs, hn⟩
    · simp at h
  · rintro ⟨ds, vs, hne, hname, hvs, hn⟩
    have hpre : stem.toList.isPrefixOf name.toList = true :=
      List.isPrefixOf_iff_prefix.2 ⟨ds, hname.symm⟩
    rw [if_pos hpre, hname, ← String.length_toList, List.drop_left]
    exact numberOf?_eq_some_iff.2 ⟨hne, vs, hvs, hn⟩

/-! ## Printing a number and reading it back -/

theorem digitValue?_digitChar {d : Nat} (h : d < 10) : digitValue? d.digitChar = some d := by
  have hall : ∀ d < 10, digitValue? d.digitChar = some d := by decide
  exact hall d h

theorem numberOf?_append_digit {ds : List Char} {n d : Nat} (hds : numberOf? ds = some n)
    (hd : d < 10) : numberOf? (ds ++ [d.digitChar]) = some (n * 10 + d) := by
  unfold numberOf? at hds ⊢
  cases ds with
  | nil => simp at hds
  | cons c cs =>
    rw [List.isEmpty_cons, if_neg Bool.false_ne_true] at hds
    rw [List.cons_append, List.isEmpty_cons, if_neg Bool.false_ne_true, ← List.cons_append,
      List.foldlM_append, hds]
    simp [digitValue?_digitChar hd]

theorem numberOf?_toDigits (n : Nat) : numberOf? (Nat.toDigits 10 n) = some n := by
  induction n using Nat.base_induction 10 (by decide) with
  | single m hm =>
    rw [Nat.toDigits_of_lt_base hm]
    simp [numberOf?, digitValue?_digitChar hm]
  | digit m k hk hm ih =>
    rw [← Nat.toDigits_append_toDigits (by decide) hm hk, Nat.toDigits_of_lt_base hk,
      numberOf?_append_digit ih hk, Nat.mul_comm]

theorem toList_guardName (stem : String) (n : Nat) :
    (guardName stem n).toList = stem.toList ++ Nat.toDigits 10 n := by
  show (stem ++ toString (Int.ofNat n)).toList = _
  rw [String.toList_append]
  congr 1
  exact Nat.toList_repr

/-- A guard name carries the number that it was made from. -/
theorem numberIn?_guardName (stem : String) (n : Nat) :
    numberIn? stem (guardName stem n) = some n := by
  have hpre : stem.toList.isPrefixOf (guardName stem n).toList = true :=
    List.isPrefixOf_iff_prefix.2 ⟨_, (toList_guardName stem n).symm⟩
  unfold numberIn?
  rw [if_pos hpre, toList_guardName, ← String.length_toList, List.drop_left, numberOf?_toDigits]

/-- No two numbers make the same name. -/
theorem guardName_injective {stem : String} {m n : Nat}
    (h : guardName stem m = guardName stem n) : m = n := by
  have hm := numberIn?_guardName stem m
  rw [h, numberIn?_guardName] at hm
  exact (Option.some.inj hm).symm

/-- A guard name ends in a digit. -/
theorem getLast_guardName (stem : String) (n : Nat) :
    ∃ c, (guardName stem n).toList.getLast? = some c ∧ (digitValue? c).isSome := by
  obtain ⟨ds, vs, hne, hname, hvs, -⟩ := numberIn?_eq_some_iff.1 (numberIn?_guardName stem n)
  refine ⟨ds.getLast hne, ?_, ?_⟩
  · rw [hname, List.getLast?_append, List.getLast?_eq_some_getLast hne]
    rfl
  · have hmem : digitValue? (ds.getLast hne) ∈ vs.map some := by
      rw [← hvs]
      exact List.mem_map_of_mem (List.getLast_mem hne)
    obtain ⟨v, -, hv⟩ := List.mem_map.1 hmem
    rw [← hv]
    rfl

/-- So no guard is called like the error that it throws. -/
theorem guardName_ne_rangeError (stem : String) (n : Nat) : guardName stem n ≠ "RangeError" := by
  intro h
  obtain ⟨c, hc, hdigit⟩ := getLast_guardName stem n
  have hlast : "RangeError".toList.getLast? = some 'r' := by decide
  rw [h, hlast, Option.some.injEq] at hc
  rw [← hc] at hdigit
  revert hdigit
  decide

end LoopBound.Guard
