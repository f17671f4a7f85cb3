import LoopBound.Proofs.Settings.Checks

/-!
# Settings and their mapping

Settings written as a mapping and read again are the same settings, whichever kinds they hold; an
empty list of kinds stays empty, since only what gives nothing falls back to what is usual. The
mapping lists the kinds in their usual order, each once. So it does not show how the kinds were
given: in what order, how often, in which case and between how much white space.
-/

namespace LoopBound.Settings

open LoopBound.Syntax LoopBound.Text

/-! ## Writing and reading -/

theorem names_name (k : LoopKind) : Names (.text k.name) k := by
  refine ⟨k.name, rfl, ?_⟩
  cases k <;> decide +kernel

theorem nodup_keys_toMapping (s : Settings) : s.toMapping.keys.Nodup := by
  have hkeys : s.toMapping.keys = ["max", "loops", "indent"] := rfl
  rw [hkeys]
  decide

/-- **Settings are read back from their mapping.** -/
theorem ofMapping_toMapping {s : Settings} (h : s.loops = inUsualOrder s.loops) :
    ofMapping s.toMapping = .ok s := by
  have hlist : Lists (asked s.toMapping "loops") (s.loops.map fun k => .text k.name) := .items _
  have hkinds : List.Forall₂ Names (s.loops.map fun k => .text k.name) s.loops := by
    rw [List.forall₂_map_left_iff, List.forall₂_same]
    exact fun k _ => names_name k
  rw [ofMapping_of_kinds s.nodup_keys_toMapping hlist hkinds, checked_eq_ok_iff]
  exact ⟨rfl, h, rfl⟩

/-! ## Spellings -/

/-- Two texts are the same but for letter case and the white space around them. -/
def SameSpelling (s t : String) : Prop :=
  (trim s).toList.map lowerChar = (trim t).toList.map lowerChar

instance (s t : String) : Decidable (SameSpelling s t) :=
  inferInstanceAs (Decidable (_ = _))

/-- Every entry of each list stands in the other one, in some spelling: they differ in order,
repetition, letter case and surrounding white space at most. -/
def SameEntries (entries entries' : List Value) : Prop :=
  (∀ s, .text s ∈ entries → ∃ t, .text t ∈ entries' ∧ SameSpelling s t)
    ∧ ∀ t, .text t ∈ entries' → ∃ s, .text s ∈ entries ∧ SameSpelling s t

/-- Where the lower case of a text is plain ASCII, each character has its own. -/
theorem map_lowerChar_of_ascii {before cs : List Char}
    (h : ∀ c ∈ lowerFrom before cs, isAscii c = true) :
    lowerFrom before cs = cs.map lowerChar := by
  induction cs generalizing before with
  | nil => rfl
  | cons c cs ih =>
    rw [lowerFrom] at h ⊢
    rw [List.forall_mem_append] at h
    rw [ih h.2, List.map_cons]
    -- the two characters with rules of their own have no lower case in ASCII
    have hdotted : ¬ (c.toNat == 0x130) = true := by
      intro hc
      rw [if_pos hc] at h
      exact absurd (h.1 (Char.ofNat 0x307) (by simp)) (by decide)
    have hsigma : ¬ (c.toNat == 0x3A3) = true := by
      intro hc
      rw [if_neg hdotted, if_pos hc] at h
      have hfinal := h.1 _ (List.mem_singleton_self _)
      split at hfinal <;> exact absurd hfinal (by decide)
    rw [if_neg hdotted, if_neg hsigma]
    rfl

theorem toList_normalName (s : String) :
    (LoopKind.normalName s).toList = lowerFrom [] (trim s).toList := by
  rw [LoopKind.normalName, lowercase, String.toList_ofList]

theorem map_lowerChar_of_names {s : String} {k : LoopKind} (h : LoopKind.normalName s = k.name) :
    (trim s).toList.map lowerChar = k.name.toList := by
  have hlower : lowerFrom [] (trim s).toList = k.name.toList := by rw [← toList_normalName, h]
  have hascii : k.name.toList.all isAscii = true := by cases k <;> decide +kernel
  rw [← hlower, map_lowerChar_of_ascii]
  rw [hlower]
  exact List.all_eq_true.1 hascii

theorem name_injective {k k' : LoopKind} (h : k.name = k'.name) : k = k' := by
  have hk := ofName?_eq_some_iff.2 h
  rw [ofName?_eq_some_iff.2 rfl] at hk
  exact Option.some.inj hk

/-- Spellings of one text name one kind. -/
theorem kind_eq_of_sameSpelling {s t : String} (h : SameSpelling s t) {k k' : LoopKind}
    (hs : LoopKind.normalName s = k.name) (ht : LoopKind.normalName t = k'.name) : k = k' := by
  rw [SameSpelling, map_lowerChar_of_names hs, map_lowerChar_of_names ht] at h
  exact name_injective (String.toList_inj.1 h)

theorem exists_names_of_sameSpelling {entries entries' : List Value} {k : LoopKind}
    (hnamed : ∀ w ∈ entries', ∃ k, Names w k)
    (h : ∀ s, .text s ∈ entries → ∃ t, .text t ∈ entries' ∧ SameSpelling s t)
    (hk : ∃ v ∈ entries, Names v k) : ∃ w ∈ entries', Names w k := by
  obtain ⟨_, hv, s, rfl, hs⟩ := hk
  obtain ⟨t, ht, hspelling⟩ := h s hv
  obtain ⟨k', u, hu, hk'⟩ := hnamed _ ht
  cases hu
  refine ⟨.text t, ht, t, rfl, ?_⟩
  rw [hk', kind_eq_of_sameSpelling hspelling hs hk']

theorem lists_unique {v : Value} {entries entries' : List Value} (h : Lists v entries)
    (h' : Lists v entries') : entries = entries' := by
  rw [← kindEntries?_eq_some_iff] at h h'
  exact Option.some.inj (h.symm.trans h')

/-! ## Accepted overrides -/

section

variable {m m' : Mapping} {s s' : Settings}

theorem kinds_of_ofMapping (hm : m.keys.Nodup) (h : ofMapping m = .ok s) {entries : List Value}
    (hlist : Lists (asked m "loops") entries) :
    (∀ w ∈ entries, ∃ k, Names w k) ∧ ∀ k, k ∈ s.loops ↔ ∃ w ∈ entries, Names w k := by
  obtain ⟨hvalid, hfits⟩ := valid_and_fits_of_ofMapping hm h
  obtain ⟨_, hlist', hnamed⟩ := hvalid.loops
  obtain ⟨_, hlist'', hmem⟩ := hfits.loops
  cases lists_unique hlist hlist'
  cases lists_unique hlist hlist''
  exact ⟨hnamed, hmem⟩

/-- Kinds in their usual order are the same if they are the same as a set. -/
theorem loops_eq (hs : s.loops = inUsualOrder s.loops) (hs' : s'.loops = inUsualOrder s'.loops)
    (h : ∀ k, k ∈ s.loops ↔ k ∈ s'.loops) : s.loops = s'.loops := by
  rw [hs, hs']
  exact List.filter_congr fun k _ => decide_eq_decide.2 (h k)

theorem eq_of_fields (hmax : s.max = s'.max) (hloops : s.loops = s'.loops)
    (hindent : s.indent = s'.indent) : s = s' := by
  cases s
  cases s'
  cases hmax
  cases hloops
  cases hindent
  rfl

/-- Lists of kinds that differ only in how they are written make the same settings. -/
theorem eq_of_sameEntries (hm : m.keys.Nodup) (hm' : m'.keys.Nodup) (h : ofMapping m = .ok s)
    (h' : ofMapping m' = .ok s') (hmax : asked m' "max" = asked m "max")
    (hindent : asked m' "indent" = asked m "indent") {entries entries' : List Value}
    (hlist : Lists (asked m "loops") entries) (hlist' : Lists (asked m' "loops") entries')
    (hsame : SameEntries entries entries') : s = s' := by
  obtain ⟨hnamed, hmem⟩ := kinds_of_ofMapping hm h hlist
  obtain ⟨hnamed', hmem'⟩ := kinds_of_ofMapping hm' h' hlist'
  have hfits := (valid_and_fits_of_ofMapping hm h).2
  have hfits' := (valid_and_fits_of_ofMapping hm' h').2
  have hloops : s.loops = s'.loops := by
    refine loops_eq hfits.order hfits'.order fun k => ?_
    rw [hmem, hmem']
    refine ⟨exists_names_of_sameSpelling hnamed' hsame.1,
      exists_names_of_sameSpelling hnamed fun t ht => ?_⟩
    obtain ⟨u, hu, hspelling⟩ := hsame.2 t ht
    exact ⟨u, hu, hspelling.symm⟩
  rw [hfits.max, hfits'.max, Value.whole.injEq, Int.natCast_inj] at hmax
  rw [hfits.indent, hfits'.indent, Value.whole.injEq, Int.natCast_inj] at hindent
  exact eq_of_fields hmax.symm hloops hindent.symm

/-- **Settings survive their mapping.** Whatever they hold, they are read back; so are those that
overrides made, whose mapping lists each kind once in the usual order; and overrides whose lists
differ only in how they are written make the same settings and the same mapping. -/
theorem settings_survive_mapping :
    (∀ (max indent : Nat) (kinds : List LoopKind) (hmax : 0 < max),
        ofMapping (toMapping ⟨max, inUsualOrder kinds, indent, hmax⟩)
          = .ok ⟨max, inUsualOrder kinds, indent, hmax⟩)
      ∧ (∀ (m : Mapping) (s : Settings), m.keys.Nodup → ofMapping m = .ok s →
        ofMapping s.toMapping = .ok s
          ∧ s.toMapping.get? "loops" = some (.list
            ((LoopKind.all.filter fun k => k ∈ s.loops).map fun k => .text k.name)))
      ∧ ∀ (m m' : Mapping) (s s' : Settings) (entries entries' : List Value),
        m.keys.Nodup → m'.keys.Nodup → ofMapping m = .ok s → ofMapping m' = .ok s' →
        asked m' "max" = asked m "max" → asked m' "indent" = asked m "indent" →
        Lists (asked m "loops") entries → Lists (asked m' "loops") entries' →
        SameEntries entries entries' → s = s' ∧ s.toMapping = s'.toMapping := by
  refine ⟨fun max indent kinds hmax => ?_, fun m s hm h => ?_, ?_⟩
  · exact ofMapping_toMapping (inUsualOrder_inUsualOrder kinds).symm
  · have horder := (valid_and_fits_of_ofMapping hm h).2.order
    refine ⟨ofMapping_toMapping horder, ?_⟩
    have hget : s.toMapping.get? "loops" = some (.list (s.loops.map fun k => .text k.name)) := rfl
    rw [hget]
    exact congrArg
      (fun kinds : List LoopKind => some (Value.list (kinds.map fun k => .text k.name))) horder
  · intro m m' s s' entries entries' hm hm' h h' hmax hindent hlist hlist' hsame
    have heq := eq_of_sameEntries hm hm' h h' hmax hindent hlist hlist' hsame
    exact ⟨heq, congrArg toMapping heq⟩

/-- A list of kinds with a repetition, in mixed case and with white space around an entry. -/
def spelledList : Mapping :=
  [("loops", .list [.text " While", .text "for", .text "FOR"]), ("max", .whole 7)]

/-- The same kinds as the keys of a mapping, in another order. -/
def spelledKeys : Mapping :=
  [("max", .whole 7), ("loops", .mapping [("for", .null), ("while\n", .truth true)])]

/-- What both ask for. -/
def spelledSettings : Settings :=
  ⟨7, [.for, .while], 2, by decide⟩

theorem sameEntries_spelled :
    SameEntries [.text " While", .text "for", .text "FOR"] [.text "for", .text "while\n"] := by
  constructor
  · intro s hs
    simp only [List.mem_cons, Value.text.injEq, List.not_mem_nil, or_false] at hs
    rcases hs with rfl | rfl | rfl
    · exact ⟨"while\n", by simp, by decide +kernel⟩
    · exact ⟨"for", by simp, by decide +kernel⟩
    · exact ⟨"for", by simp, by decide +kernel⟩
  · intro t ht
    simp only [List.mem_cons, Value.text.injEq, List.not_mem_nil, or_false] at ht
    rcases ht with rfl | rfl
    · exact ⟨"for", by simp, by decide +kernel⟩
    · exact ⟨" While", by simp, by decide +kernel⟩

theorem settings_survive_mapping_spelled :
    spelledList.keys.Nodup ∧ spelledKeys.keys.Nodup ∧ 0 < 7
      ∧ ofMapping spelledSettings.toMapping = .ok spelledSettings
      ∧ ofMapping spelledList = ofMapping spelledKeys := by
  have hm : spelledList.keys.Nodup := by decide
  have hm' : spelledKeys.keys.Nodup := by decide
  have h : ofMapping spelledList = .ok spelledSettings := rfl
  obtain ⟨s, h'⟩ : ∃ s, ofMapping spelledKeys = .ok s := ⟨_, rfl⟩
  obtain ⟨hread, -, hsame⟩ := settings_survive_mapping
  have heq := (hsame _ _ _ _ _ _ hm hm' h h' rfl rfl (.items _) (.keys _) sameEntries_spelled).1
  exact ⟨hm, hm', by decide, hread 7 2 [.while, .for] (by decide), by rw [h, h', heq]⟩

end

end LoopBound.Settings
