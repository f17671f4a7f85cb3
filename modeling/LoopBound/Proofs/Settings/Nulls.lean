import LoopBound.Proofs.Settings.Merge

/-!
# Entries without a value

Overrides with their entries without a value left out, at every depth, give the same merge as the
overrides themselves, with one exception. A mapping that meets no mapping of the base is taken over
as it is, so entries without a value below its first level come along (`BringsNull`). The exception
is exact: where it applies the two merges differ (`merge_withoutNull_iff`).
-/

namespace LoopBound.Settings

/-! ## Leaving them out -/

/-- A value with the entries without a value left out of all its mappings; lists stay. -/
def Value.withoutNull : Value → Value
  | .mapping entries => .mapping (go entries)
  | v => v
where
  go : List (String × Value) → List (String × Value)
    | [] => []
    | (_, .null) :: rest => go rest
    | (key, v) :: rest => (key, v.withoutNull) :: go rest

/-- A mapping with the entries without a value left out of it and of all mappings in it. -/
def Mapping.withoutNull (m : Mapping) : Mapping :=
  (m.filter fun e => !e.2.isNull).map fun e => (e.1, e.2.withoutNull)

theorem Value.withoutNull_mapping (m : Mapping) :
    (Value.mapping m).withoutNull = .mapping m.withoutNull := by
  refine congrArg Value.mapping ?_
  induction m with
  | nil => rfl
  | cons e m ih =>
    obtain ⟨key, v⟩ := e
    cases v with
    | null => exact ih
    | _ => exact congrArg (List.cons _) ih

theorem Value.withoutNull_of_plain {v : Value} (h : ∀ entries, v ≠ .mapping entries) :
    v.withoutNull = v := by
  cases v with
  | mapping entries => exact absurd rfl (h entries)
  | _ => rfl

theorem Value.isNull_withoutNull (v : Value) : v.withoutNull.isNull = v.isNull := by
  cases v <;> rfl

namespace Mapping

theorem mem_withoutNull_iff {m : Mapping} {k : String} {w : Value} :
    (k, w) ∈ m.withoutNull ↔ ∃ v, (k, v) ∈ m ∧ v.isNull = false ∧ v.withoutNull = w := by
  simp only [withoutNull, List.mem_map, List.mem_filter, Prod.exists, Bool.not_eq_true',
    Prod.mk.injEq]
  constructor
  · rintro ⟨_, v, ⟨hmem, hv⟩, rfl, hw⟩
    exact ⟨v, hmem, hv, hw⟩
  · rintro ⟨v, hmem, hv, hw⟩
    exact ⟨k, v, ⟨hmem, hv⟩, rfl, hw⟩

theorem nodup_keys_withoutNull {m : Mapping} (once : m.keys.Nodup) :
    m.withoutNull.keys.Nodup := by
  rw [withoutNull, keys, List.map_map]
  exact once.sublist (List.filter_sublist.map _)

theorem fresh_withoutNull (m : Mapping) (there : List String) :
    m.withoutNull.fresh there = m.fresh there := by
  simp only [fresh, withoutNull, List.filter_map, List.filter_filter, keys, List.map_map]
  congr 1
  refine List.filter_congr fun e _ => ?_
  simp [Value.isNull_withoutNull, Bool.and_comm]

theorem given?_withoutNull {m : Mapping} (once : m.keys.Nodup) (k : String) :
    m.withoutNull.given? k = (m.given? k).map Value.withoutNull := by
  refine Option.ext fun w => ?_
  rw [given?_eq_some_iff (nodup_keys_withoutNull once), mem_withoutNull_iff,
    Option.map_eq_some_iff]
  simp only [given?_eq_some_iff once]
  constructor
  · rintro ⟨⟨v, hmem, hv, hw⟩, -⟩
    exact ⟨v, ⟨hmem, hv⟩, hw⟩
  · rintro ⟨v, ⟨hmem, hv⟩, rfl⟩
    exact ⟨⟨v, hmem, hv, rfl⟩, v.isNull_withoutNull.trans hv⟩

end Mapping

/-! ## Where they come through -/

/-- A mapping in the value, through the values of mappings, has an entry without a value. -/
inductive Value.HoldsNull : Value → Prop
  | here {entries : Mapping} {key : String} (h : (key, .null) ∈ entries) :
    HoldsNull (.mapping entries)
  | inside {entries : Mapping} {key : String} {v : Value} (h : (key, v) ∈ entries)
    (hv : v.HoldsNull) : HoldsNull (.mapping entries)

/-- A value laid over a base brings entries without a value along: it is a mapping that holds some
and meets no mapping, or there is such a value in it where it meets one. -/
inductive BringsNull : Option Value → Value → Prop
  | taken {base? : Option Value} {o : Mapping} (h : ∀ b, base? ≠ some (.mapping b))
    (ho : (Value.mapping o).HoldsNull) : BringsNull base? (.mapping o)
  | inside {b o : Mapping} {key : String} {v : Value} (h : (key, v) ∈ o)
    (hv : BringsNull (b.get? key) v) : BringsNull (some (.mapping b)) (.mapping o)

theorem holdsNull_mapping_iff {m : Mapping} :
    (Value.mapping m).HoldsNull ↔ ∃ e ∈ m, e.2.isNull ∨ e.2.HoldsNull := by
  constructor
  · intro h
    cases h with
    | here h => exact ⟨_, h, .inl rfl⟩
    | inside h hv => exact ⟨_, h, .inr hv⟩
  · rintro ⟨⟨key, v⟩, hmem, hv | hv⟩
    · cases v with
      | null => exact .here hmem
      | _ => cases hv
    · exact .inside hmem hv

theorem bringsNull_mapping_iff {b o : Mapping} :
    BringsNull (some (.mapping b)) (.mapping o) ↔ ∃ e ∈ o, BringsNull (b.get? e.1) e.2 := by
  constructor
  · intro h
    cases h with
    | taken h => exact absurd rfl (h b)
    | inside h hv => exact ⟨_, h, hv⟩
  · rintro ⟨e, hmem, hv⟩
    exact .inside hmem hv

theorem bringsNull_taken_iff {base? : Option Value} (h : ∀ b, base? ≠ some (.mapping b))
    {o : Mapping} : BringsNull base? (.mapping o) ↔ (Value.mapping o).HoldsNull := by
  constructor
  · intro hbrings
    cases hbrings with
    | taken _ ho => exact ho
    | inside => exact absurd rfl (h _)
  · exact .taken h

theorem not_bringsNull_of_plain {v : Value} (h : ∀ entries, v ≠ .mapping entries)
    (base? : Option Value) : ¬ BringsNull base? v := by
  rintro (_ | _) <;> exact h _ rfl

theorem BringsNull.isNull_eq {base? : Option Value} {v : Value} (h : BringsNull base? v) :
    v.isNull = false := by
  cases h <;> rfl

/-- A filtered and mapped list is the list itself only if nothing was left out or changed. -/
theorem map_filter_eq_self_iff {α : Type} {p : α → Bool} {f : α → α} {l : List α} :
    (l.filter p).map f = l ↔ ∀ a ∈ l, p a = true ∧ f a = a := by
  constructor
  · intro h
    have hall : ∀ a ∈ l, p a = true := by
      rw [← List.length_filter_eq_length_iff, ← List.length_map f, h]
    rw [List.filter_eq_self.2 hall] at h
    have hsame := List.map_inj_left.1 (h.trans (List.map_id l).symm)
    exact fun a ha => ⟨hall a ha, hsame a ha⟩
  · intro h
    rw [List.filter_eq_self.2 fun a ha => (h a ha).1, List.map_congr_left fun a ha => (h a ha).2,
      List.map_id']

theorem withoutNull_eq_self_iff {v : Value} (hv : v.Keyed) : v.withoutNull = v ↔ ¬ v.HoldsNull := by
  induction hv with
  | plain h =>
    refine iff_of_true (Value.withoutNull_of_plain h) ?_
    rintro (_ | _) <;> exact h _ rfl
  | @mapping m once each ih =>
    rw [Value.withoutNull_mapping, Value.mapping.injEq, Mapping.withoutNull,
      map_filter_eq_self_iff, holdsNull_mapping_iff, not_exists]
    refine forall_congr' fun e => ?_
    rw [not_and, not_or]
    refine imp_congr_right fun he => ?_
    rw [Prod.ext_iff, ← ih e he, Bool.not_eq_true', Bool.not_eq_true]
    simp

/-- Leaving out entries without a value changes a merge only through what is given at some key. -/
theorem merge_withoutNull_eq_iff {b o : Mapping} (hb : b.keys.Nodup) (ho : o.keys.Nodup) :
    merge b o.withoutNull = merge b o
      ↔ ∀ k v, o.given? k = some v → overlay (b.get? k) v.withoutNull = overlay (b.get? k) v := by
  have ho' := Mapping.nodup_keys_withoutNull ho
  constructor
  · intro h k v hgiven
    have hget : (merge b o.withoutNull).get? k = (merge b o).get? k := by rw [h]
    rw [get?_merge ho, get?_merge ho', Mapping.given?_withoutNull ho, hgiven] at hget
    exact Option.some.inj hget
  · intro h
    refine Mapping.ext_get? (nodup_keys_merge hb ho') ?_ fun k => ?_
    · rw [keys_merge ho, keys_merge ho', Mapping.fresh_withoutNull]
    · rw [get?_merge ho, get?_merge ho', Mapping.given?_withoutNull ho]
      cases hgiven : o.given? k with
      | none => rfl
      | some v => exact congrArg some (h k v hgiven)

theorem overlay_withoutNull_iff {v : Value} (hv : v.Keyed) {base? : Option Value}
    (hbase : BaseKeyed base?) :
    overlay base? v.withoutNull = overlay base? v ↔ ¬ BringsNull base? v := by
  induction hv generalizing base? with
  | plain h =>
    exact iff_of_true (by rw [Value.withoutNull_of_plain h]) (not_bringsNull_of_plain h base?)
  | @mapping o once each ih =>
    rw [Value.withoutNull_mapping]
    rcases mapping_or_not base? with ⟨b, rfl⟩ | hnone
    · -- the merge goes into the mapping: what comes along comes from one of its entries
      have hb : Mapping.Keyed b := hbase _ rfl
      rw [overlay_mapping, overlay_mapping, Value.mapping.injEq,
        merge_withoutNull_eq_iff (Value.keyed_mapping_iff.1 hb).1 once, bringsNull_mapping_iff,
        not_exists]
      constructor
      · rintro h ⟨key, v⟩ ⟨hmem, hbrings⟩
        have hgiven := (Mapping.given?_eq_some_iff once).2 ⟨hmem, hbrings.isNull_eq⟩
        exact (ih (key, v) hmem (baseKeyed_get? hb key)).1 (h key v hgiven) hbrings
      · intro h key v hgiven
        have hmem := ((Mapping.given?_eq_some_iff once).1 hgiven).1
        exact (ih (key, v) hmem (baseKeyed_get? hb key)).2 fun hbrings => h _ ⟨hmem, hbrings⟩
    · -- the mapping is taken over as it is, with all that it holds
      rw [overlay_of_no_mapping hnone, overlay_of_no_mapping hnone, bringsNull_taken_iff hnone,
        ← withoutNull_eq_self_iff (.mapping once each), Value.withoutNull_mapping]

/-- **Entries without a value are passed over exactly where the merge goes.** Leaving them out of
the overrides beforehand, at every depth, changes the merge if and only if a mapping that holds
some is taken over as it is. -/
theorem merge_withoutNull_iff {b o : Mapping} (hb : b.Keyed) (ho : o.Keyed) :
    merge b o.withoutNull = merge b o ↔ ¬ BringsNull (some (.mapping b)) (.mapping o) := by
  rw [← overlay_withoutNull_iff ho (baseKeyed_mapping hb), Value.withoutNull_mapping,
    overlay_mapping, overlay_mapping, Value.mapping.injEq]

/-- An entry without a value that meets a mapping is passed over. -/
theorem merge_withoutNull_iff_met :
    Mapping.Keyed [("a", .mapping [("x", .whole 1)])]
      ∧ Mapping.Keyed [("a", .mapping [("x", .null)])]
      ∧ merge [("a", .mapping [("x", .whole 1)])]
          (Mapping.withoutNull [("a", .mapping [("x", .null)])])
        = merge [("a", .mapping [("x", .whole 1)])] [("a", .mapping [("x", .null)])] := by
  have hb : Mapping.Keyed [("a", .mapping [("x", .whole 1)])] :=
    Mapping.keyed_singleton "a" (Mapping.keyed_singleton "x" (.plain (by simp)))
  have ho : Mapping.Keyed [("a", .mapping [("x", .null)])] :=
    Mapping.keyed_singleton "a" (Mapping.keyed_singleton "x" (.plain (by simp)))
  refine ⟨hb, ho, (merge_withoutNull_iff hb ho).2 ?_⟩
  intro hbrings
  obtain ⟨_, he, ha⟩ := bringsNull_mapping_iff.1 hbrings
  cases List.mem_singleton.1 he
  obtain ⟨_, he, hx⟩ := bringsNull_mapping_iff.1 ha
  cases List.mem_singleton.1 he
  exact not_bringsNull_of_plain (by simp) _ hx

/-- A mapping that meets nothing keeps its entry without a value. -/
theorem merge_withoutNull_ne :
    merge [] (Mapping.withoutNull [("a", .mapping [("x", .null)])])
      ≠ merge [] [("a", .mapping [("x", .null)])] := by
  intro h
  cases h

end LoopBound.Settings
