import LoopBound.Settings.Merge
import Mathlib.Data.List.Nodup

/-!
# What merging gives

A mapping with each key once is settled by its keys and by what stands at each of them. Behind a
merge these are: the keys of the base, and behind them the keys at which the overrides give
something that the base lacks (`keys_merge`); at each key what the overrides give, laid over what
the base has (`get?_merge`).

All else follows from these two by induction on what is laid over. Merging the same overrides again
changes nothing, although the second merge may go into a mapping that the first one only took over:
there the mapping is laid over itself.
-/

namespace LoopBound.Settings

/-- The value is nothing. -/
def Value.isNull : Value → Bool
  | .null => true
  | _ => false

theorem Value.eq_null_of_isNull {v : Value} (h : v.isNull = true) : v = .null := by
  cases v with
  | null => rfl
  | _ => cases h

/-- Every mapping in a value, through the values of mappings, has each key once. -/
inductive Value.Keyed : Value → Prop
  | plain {v : Value} (h : ∀ entries, v ≠ .mapping entries) : Keyed v
  | mapping {entries : Mapping} (once : entries.keys.Nodup) (each : ∀ e ∈ entries, e.2.Keyed) :
    Keyed (.mapping entries)

theorem Value.keyed_mapping_iff {entries : Mapping} :
    (Value.mapping entries).Keyed ↔ entries.keys.Nodup ∧ ∀ e ∈ entries, e.2.Keyed := by
  refine ⟨fun h => ?_, fun h => .mapping h.1 h.2⟩
  cases h with
  | plain h => exact absurd rfl (h entries)
  | mapping once each => exact ⟨once, each⟩

/-! ## Keys and what stands at them -/

namespace Mapping

/-- Every mapping in it has each key once. -/
def Keyed (m : Mapping) : Prop :=
  (Value.mapping m).Keyed

/-- What a mapping gives at a key: an entry without a value gives nothing. -/
def given? (m : Mapping) (key : String) : Option Value :=
  (m.get? key).filter fun v => !v.isNull

/-- The keys at which a mapping gives something, apart from those that are there already. -/
def fresh (m : Mapping) (there : List String) : List String :=
  Mapping.keys (m.filter fun e => !e.2.isNull && !there.contains e.1)

theorem keyed_singleton (key : String) {v : Value} (hv : v.Keyed) : Mapping.Keyed [(key, v)] :=
  .mapping (List.nodup_singleton key) fun _ he => List.mem_singleton.1 he ▸ hv

theorem get?_cons (key : String) (v : Value) (m : Mapping) (k : String) :
    Mapping.get? ((key, v) :: m) k = if k = key then some v else m.get? k := by
  rw [get?, List.lookup_cons]
  by_cases h : k = key
  · rw [if_pos h, beq_iff_eq.2 h]
  · rw [if_neg h, beq_eq_false_iff_ne.2 h]
    rfl

theorem keys_cons (key : String) (v : Value) (m : Mapping) :
    Mapping.keys ((key, v) :: m) = key :: m.keys := rfl

theorem get?_eq_none {m : Mapping} {k : String} (h : k ∉ m.keys) : m.get? k = none := by
  rw [get?, List.lookup_eq_none_iff]
  intro e he
  rw [bne_iff_ne]
  rintro rfl
  exact h (List.mem_map_of_mem he)

theorem get?_eq_some_iff {m : Mapping} (once : m.keys.Nodup) {k : String} {v : Value} :
    m.get? k = some v ↔ (k, v) ∈ m := by
  induction m with
  | nil => simp [get?]
  | cons e m ih =>
    obtain ⟨key, w⟩ := e
    rw [keys_cons, List.nodup_cons] at once
    rw [get?_cons, List.mem_cons, Prod.mk.injEq, ← ih once.2]
    by_cases hk : k = key
    · have hnone : Mapping.get? m key = none := get?_eq_none once.1
      simp [hk, hnone, eq_comm]
    · simp [hk]

theorem given?_eq_some_iff {m : Mapping} (once : m.keys.Nodup) {k : String} {v : Value} :
    m.given? k = some v ↔ (k, v) ∈ m ∧ v.isNull = false := by
  rw [given?, Option.filter_eq_some_iff, get?_eq_some_iff once, Bool.not_eq_true']

theorem given?_eq_none {m : Mapping} {k : String} (h : k ∉ m.keys) : m.given? k = none := by
  rw [given?, get?_eq_none h, Option.filter_none]

/-- Keys that differ, and what stands at them, settle a mapping. -/
theorem ext_get? {m m' : Mapping} (once : m.keys.Nodup) (hkeys : m.keys = m'.keys)
    (hget : ∀ k, m.get? k = m'.get? k) : m = m' := by
  induction m generalizing m' with
  | nil => exact (List.map_eq_nil_iff.1 hkeys.symm).symm
  | cons e m ih =>
    cases m' with
    | nil => cases hkeys
    | cons e' m' =>
      rw [keys_cons, keys_cons, List.cons.injEq] at hkeys
      rw [keys_cons, List.nodup_cons] at once
      have hhead := hget e.1
      rw [get?_cons, get?_cons, if_pos rfl, if_pos hkeys.1, Option.some.injEq] at hhead
      have htail : m = m' := by
        refine ih once.2 hkeys.2 fun k => ?_
        by_cases hk : k = e.1
        · -- the key of the head stands in neither tail
          rw [hk, get?_eq_none once.1, get?_eq_none (hkeys.2 ▸ once.1)]
        · have := hget k
          rwa [get?_cons, get?_cons, if_neg hk, if_neg (hkeys.1 ▸ hk)] at this
      rw [htail, Prod.ext hkeys.1 hhead]

theorem get?_put (m : Mapping) (key : String) (v : Value) (k : String) :
    (m.put key v).get? k = if k = key then some v else m.get? k := by
  induction m with
  | nil => exact get?_cons key v [] k
  | cons e m ih =>
    rw [put]
    split
    · rename_i heq
      rw [get?_cons, get?_cons, eq_of_beq heq]
      split <;> rfl
    · rename_i hne
      rw [get?_cons, get?_cons, ih]
      by_cases hk : k = e.1
      · have hkey : k ≠ key := fun h => hne (by simp [← h, hk])
        rw [if_pos hk, if_pos hk, if_neg hkey]
      · rw [if_neg hk, if_neg hk]

theorem keys_put_of_mem {m : Mapping} {key : String} (h : key ∈ m.keys) (v : Value) :
    (m.put key v).keys = m.keys := by
  induction m with
  | nil => cases h
  | cons e m ih =>
    rw [put]
    split
    · rename_i heq
      rw [keys_cons, keys_cons, eq_of_beq heq]
    · rename_i hne
      rw [keys_cons, List.mem_cons] at h
      rw [keys_cons, keys_cons, ih (h.resolve_left fun heq => hne (by simp [heq]))]

theorem keys_put_of_not_mem {m : Mapping} {key : String} (h : key ∉ m.keys) (v : Value) :
    (m.put key v).keys = m.keys ++ [key] := by
  induction m with
  | nil => rfl
  | cons e m ih =>
    rw [keys_cons, List.mem_cons, not_or] at h
    rw [put, if_neg (by simpa using Ne.symm h.1), keys_cons, keys_cons, ih h.2]
    rfl

/-! ## What is fresh -/

theorem mem_fresh_iff {m : Mapping} {there : List String} {k : String} :
    k ∈ m.fresh there ↔ k ∉ there ∧ ∃ v, (k, v) ∈ m ∧ v.isNull = false := by
  simp only [fresh, keys, List.mem_map, List.mem_filter, Prod.exists, Bool.and_eq_true,
    Bool.not_eq_true', List.contains_eq_mem, decide_eq_false_iff_not]
  constructor
  · rintro ⟨_, v, ⟨hmem, hv, hk⟩, rfl⟩
    exact ⟨hk, v, hmem, hv⟩
  · rintro ⟨hk, v, hmem, hv⟩
    exact ⟨k, v, ⟨hmem, hv, hk⟩, rfl⟩

theorem fresh_sublist (m : Mapping) (there : List String) : List.Sublist (m.fresh there) m.keys :=
  List.filter_sublist.map _

theorem fresh_cons_of_null (key : String) (m : Mapping) (there : List String) :
    Mapping.fresh ((key, .null) :: m) there = m.fresh there := rfl

theorem fresh_cons_of_mem {key : String} {v : Value} {there : List String} (h : key ∈ there)
    (m : Mapping) : Mapping.fresh ((key, v) :: m) there = m.fresh there := by
  simp [fresh, h]

theorem fresh_cons_of_not_mem {key : String} {v : Value} {there : List String}
    (hv : v.isNull = false) (h : key ∉ there) {m : Mapping} (hm : key ∉ m.keys) :
    Mapping.fresh ((key, v) :: m) there = key :: m.fresh (there ++ [key]) := by
  have htail : m.filter (fun e => !e.2.isNull && !(there ++ [key]).contains e.1)
      = m.filter (fun e => !e.2.isNull && !there.contains e.1) := by
    refine List.filter_congr fun e he => ?_
    have : e.1 ≠ key := fun heq => hm (heq ▸ List.mem_map_of_mem he)
    simp [this]
  rw [fresh, fresh, htail, List.filter_cons, if_pos (by simp [hv, h]), keys_cons]

end Mapping

/-! ## Merging -/

section

variable {b o : Mapping}

theorem merge_cons_null (key : String) (b o : Mapping) :
    merge b ((key, .null) :: o) = merge b o := rfl

theorem merge_cons {v : Value} (hv : v.isNull = false) (key : String) (b o : Mapping) :
    merge b ((key, v) :: o) = merge (b.put key (overlay (b.get? key) v)) o := by
  cases v with
  | null => cases hv
  | _ => rfl

/-- **The keys behind a merge.** -/
theorem keys_merge (ho : o.keys.Nodup) : (merge b o).keys = b.keys ++ o.fresh b.keys := by
  induction o generalizing b with
  | nil => exact (List.append_nil _).symm
  | cons e o ih =>
    obtain ⟨key, v⟩ := e
    rw [Mapping.keys_cons, List.nodup_cons] at ho
    cases hv : v.isNull with
    | true =>
      rw [Value.eq_null_of_isNull hv, merge_cons_null, Mapping.fresh_cons_of_null, ih ho.2]
    | false =>
      rw [merge_cons hv, ih ho.2]
      by_cases hkey : key ∈ b.keys
      · rw [Mapping.keys_put_of_mem hkey, Mapping.fresh_cons_of_mem hkey]
      · rw [Mapping.keys_put_of_not_mem hkey, Mapping.fresh_cons_of_not_mem hv hkey ho.1,
          List.append_assoc, List.singleton_append]

/-- **What stands at a key behind a merge.** -/
theorem get?_merge (ho : o.keys.Nodup) (k : String) :
    (merge b o).get? k
      = match o.given? k with
        | none => b.get? k
        | some v => some (overlay (b.get? k) v) := by
  induction o generalizing b with
  | nil => rfl
  | cons e o ih =>
    obtain ⟨key, v⟩ := e
    rw [Mapping.keys_cons, List.nodup_cons] at ho
    -- nothing behind an entry speaks of its key again
    have hlater : Mapping.given? o key = none := Mapping.given?_eq_none ho.1
    rw [Mapping.given?, Mapping.get?_cons]
    cases hv : v.isNull with
    | true =>
      rw [Value.eq_null_of_isNull hv, merge_cons_null, ih ho.2]
      by_cases hk : k = key
      · rw [if_pos hk, hk, hlater]
        rfl
      · rw [if_neg hk]
        rfl
    | false =>
      rw [merge_cons hv, ih ho.2, Mapping.get?_put]
      by_cases hk : k = key
      · rw [if_pos hk, if_pos hk, hk, hlater, Option.filter_some_pos (by simp [hv])]
      · rw [if_neg hk, if_neg hk]
        rfl

theorem nodup_keys_merge (hb : b.keys.Nodup) (ho : o.keys.Nodup) : (merge b o).keys.Nodup := by
  rw [keys_merge ho, List.nodup_append]
  refine ⟨hb, ho.sublist (o.fresh_sublist _), ?_⟩
  rintro k hk _ hfresh rfl
  exact (Mapping.mem_fresh_iff.1 hfresh).1 hk

/-- A base that has already what the overrides give stays as it is. -/
theorem merge_eq_base (hb : b.keys.Nodup) (ho : o.keys.Nodup)
    (h : ∀ k v, o.given? k = some v → b.get? k = some (overlay (b.get? k) v)) :
    merge b o = b := by
  have hfresh : o.fresh b.keys = [] := by
    refine List.eq_nil_iff_forall_not_mem.2 fun k hk => ?_
    obtain ⟨hnot, v, hmem, hv⟩ := Mapping.mem_fresh_iff.1 hk
    have hget := h k v ((Mapping.given?_eq_some_iff ho).2 ⟨hmem, hv⟩)
    rw [Mapping.get?_eq_none hnot] at hget
    cases hget
  refine Mapping.ext_get? (nodup_keys_merge hb ho) ?_ fun k => ?_
  · rw [keys_merge ho, hfresh, List.append_nil]
  · rw [get?_merge ho]
    cases hgiven : o.given? k with
    | none => rfl
    | some v => exact (h k v hgiven).symm

end

/-! ## Laying a value over the same place again -/

/-- A value that is no mapping takes the place of any other. -/
theorem overlay_of_plain {v : Value} (h : ∀ entries, v ≠ .mapping entries) (base? : Option Value) :
    overlay base? v = v := by
  cases v with
  | mapping entries => exact absurd rfl (h entries)
  | _ => rfl

theorem overlay_mapping (b o : Mapping) :
    overlay (some (.mapping b)) (.mapping o) = .mapping (merge b o) := rfl

/-- Where the base has no mapping, a value is taken over as it is. -/
theorem overlay_of_no_mapping {base? : Option Value} (h : ∀ b, base? ≠ some (.mapping b))
    (v : Value) : overlay base? v = v := by
  cases v with
  | mapping o =>
    match base? with
    | some (.mapping b) => exact absurd rfl (h b)
    | none | some .null | some (.truth _) | some (.whole _) | some (.real _) | some (.text _)
    | some (.list _) => rfl
  | _ => rfl

theorem mapping_or_not (base? : Option Value) :
    (∃ b, base? = some (.mapping b)) ∨ ∀ b, base? ≠ some (.mapping b) := by
  rw [← not_exists]
  exact Classical.em _

/-- A value laid over itself. -/
theorem overlay_self {v : Value} (hv : v.Keyed) : overlay (some v) v = v := by
  induction hv with
  | plain h => exact overlay_of_plain h _
  | @mapping entries once each ih =>
    rw [overlay_mapping, merge_eq_base once once]
    intro k v hv
    have hmem := ((Mapping.given?_eq_some_iff once).1 hv).1
    rw [(Mapping.get?_eq_some_iff once).2 hmem, ih (k, v) hmem]

theorem merge_self {b : Mapping} (hb : b.Keyed) : merge b b = b := by
  have h := overlay_self hb
  rwa [overlay_mapping, Value.mapping.injEq] at h

/-- What a base has is keyed where the base is. -/
def BaseKeyed (base? : Option Value) : Prop :=
  ∀ v, base? = some v → v.Keyed

theorem baseKeyed_mapping {b : Mapping} (hb : b.Keyed) : BaseKeyed (some (.mapping b)) :=
  fun _ hv => Option.some.inj hv ▸ hb

theorem baseKeyed_get? {b : Mapping} (hb : b.Keyed) (k : String) : BaseKeyed (b.get? k) := by
  obtain ⟨once, each⟩ := Value.keyed_mapping_iff.1 hb
  intro v hv
  exact each (k, v) ((Mapping.get?_eq_some_iff once).1 hv)

/-- A value laid twice over a base. The second time it may meet itself. -/
theorem overlay_overlay {v : Value} (hv : v.Keyed) {base? : Option Value}
    (hbase : BaseKeyed base?) : overlay (some (overlay base? v)) v = overlay base? v := by
  induction hv generalizing base? with
  | plain h => rw [overlay_of_plain h, overlay_of_plain h]
  | @mapping o once each ih =>
    rcases mapping_or_not base? with ⟨b, rfl⟩ | hnone
    · have hb : Mapping.Keyed b := hbase _ rfl
      have hbonce := (Value.keyed_mapping_iff.1 hb).1
      rw [overlay_mapping, overlay_mapping, merge_eq_base (nodup_keys_merge hbonce once) once]
      intro k v hv
      have hmem := ((Mapping.given?_eq_some_iff once).1 hv).1
      rw [get?_merge once, hv]
      exact congrArg some (ih (k, v) hmem (baseKeyed_get? hb k)).symm
    · -- taken over the first time, the mapping is merged into itself the second time
      rw [overlay_of_no_mapping hnone, overlay_self (.mapping once each)]

theorem merge_merge {b o : Mapping} (hb : b.Keyed) (ho : o.Keyed) :
    merge (merge b o) o = merge b o := by
  have h := overlay_overlay ho (baseKeyed_mapping hb)
  rwa [overlay_mapping, overlay_mapping, Value.mapping.injEq] at h

/-- **Merging settles at once.** The same overrides change nothing the second time, a mapping laid
over itself stays, and the keys keep their order, new ones behind. -/
theorem merge_settles {b o : Mapping} (hb : b.Keyed) (ho : o.Keyed) :
    merge (merge b o) o = merge b o ∧ merge b b = b
      ∧ (merge b o).keys
        = b.keys ++ Mapping.keys (o.filter fun e => !e.2.isNull && !b.keys.contains e.1) :=
  ⟨merge_merge hb ho, merge_self hb, keys_merge (Value.keyed_mapping_iff.1 ho).1⟩

/-- Overrides with a mapping that has an entry without a value, and with such an entry itself. -/
def sparseOverrides : Mapping :=
  [("a", .mapping [("x", .null)]), ("b", .null)]

theorem keyed_sparseOverrides : sparseOverrides.Keyed := by
  have hx : Mapping.Keyed [("x", .null)] := Mapping.keyed_singleton "x" (.plain (by simp))
  refine .mapping (by decide) ?_
  rw [sparseOverrides, List.forall_mem_cons, List.forall_mem_singleton]
  exact ⟨hx, .plain (by simp)⟩

/-- The mapping takes the place of a number; the second time it is merged into itself. -/
theorem merge_settles_taken : Mapping.Keyed [("a", .whole 1)] ∧ sparseOverrides.Keyed
    ∧ merge (merge [("a", .whole 1)] sparseOverrides) sparseOverrides
      = merge [("a", .whole 1)] sparseOverrides := by
  have hb : Mapping.Keyed [("a", .whole 1)] := Mapping.keyed_singleton "a" (.plain (by simp))
  exact ⟨hb, keyed_sparseOverrides, (merge_settles hb keyed_sparseOverrides).1⟩

end LoopBound.Settings
