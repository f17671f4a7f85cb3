import LoopBound.Command.Run
import LoopBound.Proofs.Guard.Inserted
import LoopBound.Proofs.Guard.Supply
import LoopBound.Proofs.Reading.Order
import LoopBound.Proofs.Transform

/-!
# The listing, the report and the code agree

The loops of a text are named in three places: in the listing, in the report that comes with the
guarded text, and in the guarded text itself, by the declarations in front of the loops. All three
have the same names in the same order, one for each loop of an enabled kind, although the
declarations are put in by a walk of their own through a tree that has been changed by then.
-/

namespace LoopBound

open LoopBound.Command LoopBound.Guard LoopBound.Layout LoopBound.Reading LoopBound.Syntax

/-! ## Trees of a text -/

theorem loopIds_of_isIdentifier {n : Node} (h : n.isIdentifier = true) : n.loopIds = [] := by
  cases n with
  | identifier => rw [Node.loopIds_eq]; rfl
  | _ => cases h

theorem writtenTree_of_parse {text : String} {root : Node} (h : parse text = .ok root) :
    WrittenTree root := by
  obtain ⟨n, tree, houtcome⟩ := exists_outcome text
  obtain ⟨-, -, -, hformed⟩ := houtcome.ok root h
  intro d hd
  refine ⟨fun hloc => ?_, ?_⟩
  · have hle := start_le_of_parse h d hd
    rw [hloc] at hle
    exact absurd hle (by decide)
  · rintro label body p rfl
    obtain ⟨hlabel, -⟩ := List.forall₂_cons.1 (hformed _ hd).slots
    exact loopIds_of_isIdentifier (hlabel label List.mem_cons_self)

/-! ## One guard for each loop that was found -/

/-- A loop of another kind is not among the loops that were found. -/
theorem find?_of_other_kind {heads : List LoopHead} (hids : (heads.map (·.id)).Nodup)
    {found : List FoundLoop} {kinds : List LoopKind}
    (hfound : found.map FoundLoop.head = heads.filter (·.kind ∈ kinds)) {h : LoopHead}
    (hh : h ∈ heads) (hkind : h.kind ∉ kinds) : (found.find? fun l => l.id = h.id) = none := by
  have hguard := guard?_eq hids (v := (⟨kinds, 0, true⟩, found)) hfound hh
  rw [if_neg hkind, Option.map_eq_none_iff, Visit.guard?, Option.map_eq_none_iff] at hguard
  exact hguard

theorem find?_of_found {found : List FoundLoop} (hids : (found.map (·.id)).Nodup) {l : FoundLoop}
    (hl : l ∈ found) : (found.find? fun l' => l'.id = l.id) = some l := by
  cases hfind : found.find? fun l' => l'.id = l.id with
  | none => simpa using List.find?_eq_none.1 hfind l hl
  | some l' =>
    have hid : l'.id = l.id := by simpa using List.find?_some hfind
    rw [List.inj_on_of_nodup_map hids (List.mem_of_find?_eq_some hfind) hl hid]

/-- Looked up in the order of all loops, the guards of the loops that were found are in their order.
-/
theorem filterMap_guard {heads : List LoopHead} (hids : (heads.map (·.id)).Nodup)
    {found : List FoundLoop} {kinds : List LoopKind}
    (hfound : found.map FoundLoop.head = heads.filter (·.kind ∈ kinds)) :
    heads.filterMap (fun h => (found.find? fun l => l.id = h.id).map (·.guard))
      = found.map (·.guard) := by
  have honce : (found.map (·.id)).Nodup := by
    have hmap : found.map (·.id) = (heads.filter (·.kind ∈ kinds)).map (·.id) := by
      rw [← hfound, List.map_map]
      rfl
    rw [hmap]
    exact hids.sublist (List.filter_sublist.map _)
  have hfilter : heads.filterMap (fun h => (found.find? fun l => l.id = h.id).map (·.guard))
      = (heads.filter (·.kind ∈ kinds)).filterMap
        fun h => (found.find? fun l => l.id = h.id).map (·.guard) := by
    rw [List.filterMap_filter]
    refine List.filterMap_congr fun h hh => ?_
    by_cases hkind : h.kind ∈ kinds
    · rw [if_pos (by simpa using hkind)]
    · rw [if_neg (by simpa using hkind), find?_of_other_kind hids hfound hh hkind]
      rfl
  rw [hfilter, ← hfound, List.filterMap_map, ← List.filterMap_eq_map]
  refine List.filterMap_congr fun l hl => ?_
  exact congrArg (Option.map FoundLoop.guard) (find?_of_found honce hl)

/-- **The names declared in a guarded tree are those of the loops that were found.** -/
theorem insertedNames_inject {text : String} {root : Node} (h : parse text = .ok root)
    (kinds : List LoopKind) (max : Int) :
    insertedNames (inject root (locate root kinds {}).1 max (some usualStem))
      = (locate root kinds {}).1.map (·.guard) := by
  have hread := readTree_of_parse h
  have hwritten := writtenTree_of_parse h
  obtain ⟨ns, p, rfl⟩ := hread.program
  let r : Round := ⟨kinds, max, true⟩
  have hkeys := (r.chosen hread.distinct).keys_nodup hread.distinct
  have hinject : inject (.program ns p) (r.found (.program ns p)) max r.stem?
      = carry (Marks.empty.push (guardsOf (r.found (.program ns p)) r.stem?) max)
        (.program ns p) := by
    rw [← inject_carry hkeys, carry_empty]
  have hnames : ∀ k, (Marks.empty.push (guardsOf (r.found (.program ns p)) r.stem?) max).names k
      = (((r.found (.program ns p)).find? fun l => l.id = k).map (·.guard)).toList := by
    intro k
    rw [Marks.names, Marks.push, r.lookup_eq hread.distinct]
    cases (r.found (.program ns p)).find? fun l => l.id = k <;> rfl
  have hids : ((loopHeads (.program ns p)).map (·.id)).Nodup := by
    rw [map_id_loopHeads]
    exact hread.distinct
  -- The walk meets the declarations where the loops are, each in front of its own.
  have hcarry := @insertedNames_carry
    (Marks.empty.push (guardsOf (r.found (.program ns p)) r.stem?) max) _ hwritten
  rw [← hinject] at hcarry
  have hprogram : loopBehind? (Node.program ns p) = none := rfl
  rw [hprogram, Option.toList_none, List.flatMap_nil, List.nil_append, ← map_id_loopHeads,
    List.flatMap_map] at hcarry
  simp only [hnames] at hcarry
  refine hcarry.trans ?_
  rw [← filterMap_guard hids (locate_heads (.program ns p) kinds {}), List.filterMap_eq_flatMap_toList]
  rfl

/-! ## The report -/

variable {text : String} {settings : Settings} {root : Node}

theorem examine_of_parse (h : parse text = .ok root) (kinds : List LoopKind) :
    examine text kinds = .ok ⟨root, (survey root kinds {}).1, (survey root kinds {}).2⟩ := by
  rw [examine, h]
  rfl

/-- What is listed are the loops that were found. -/
theorem stdout_loops (h : parse text = .ok root) (a : Arguments) :
    ((⟨a, settings⟩ : Job).loops text).stdout = match a.choices.format with
      | .text => table (displayName a.input) (locate root settings.loops {}).1
      | .object => objects (locate root settings.loops {}).1 := by
  rw [Job.loops, examine_of_parse h]
  rfl

/-- What comes of a text that was read: its guards are those of the loops that were found, and its
code is that of the guarded tree if there are any. -/
theorem transform_of_parse (h : parse text = .ok root) :
    (transform text settings).guards = (locate root settings.loops {}).1.map (·.guard)
      ∧ ((locate root settings.loops {}).1 ≠ [] →
        generate (inject root (locate root settings.loops {}).1 settings.max (some usualStem))
          settings.indent = .ok (transform text settings).code) := by
  have hallocated : (locate root settings.loops {}).2.allocated
      = (locate root settings.loops {}).1.map (·.guard) := locate_allocated root settings.loops {}
  have hstem : (locate root settings.loops {}).2.stem = usualStem :=
    locate_stem root settings.loops {}
  obtain ⟨code, hcode⟩ := generate_inject_of_parse h (locate root settings.loops {}).1 settings.max
    (some usualStem) settings.indent
  have hsurvey : guardSurvey text settings
      ⟨root, (survey root settings.loops {}).1, (survey root settings.loops {}).2⟩
      = if (locate root settings.loops {}).1.isEmpty then .ok ⟨text, []⟩
        else .ok ⟨code, (locate root settings.loops {}).2.allocated⟩ := by
    have hloops : Survey.loops
        ⟨root, (survey root settings.loops {}).1, (survey root settings.loops {}).2⟩
        = (locate root settings.loops {}).1 := rfl
    have hcontext : (survey root settings.loops {}).2 = (locate root settings.loops {}).2 := rfl
    rw [guardSurvey, hloops]
    simp only [hcontext, hstem, hcode]
    rfl
  rw [transform, insertGuards, examine_of_parse h]
  simp only [hsurvey]
  cases hfound : (locate root settings.loops {}).1 with
  | nil => exact ⟨rfl, fun hne => absurd rfl hne⟩
  | cons l ls =>
    rw [hfound] at hallocated hcode
    exact ⟨hallocated, fun _ => hcode⟩

/-! ## Agreement -/

/-- **The listing, the report and the code agree.** For a text that can be read: what a search finds
are the loops of enabled kinds, in their order and each once; these are the loops that are listed;
the guards that are reported are theirs, in the same order; and so are the names that the inserted
declarations declare in the tree that is printed, in the order of the walk. -/
theorem listing_report_and_code_agree (h : parse text = .ok root) (settings : Settings) :
    let found := (locate root settings.loops {}).1
    let guarded := inject root found settings.max (some usualStem)
    (found.map FoundLoop.head = (loopHeads root).filter (·.kind ∈ settings.loops)
        ∧ (found.map (·.id)).Nodup)
      ∧ (∀ a : Arguments, ((⟨a, settings⟩ : Job).loops text).stdout
        = match a.choices.format with
          | .text => table (displayName a.input) found
          | .object => objects found)
      ∧ found.map (·.guard) = (transform text settings).guards
      ∧ insertedNames guarded = (transform text settings).guards
      ∧ (found ≠ [] → generate guarded settings.indent = .ok (transform text settings).code) := by
  intro found guarded
  have hread := readTree_of_parse h
  obtain ⟨hguards, hcode⟩ := @transform_of_parse text settings root h
  exact ⟨⟨locate_heads root settings.loops {}, (locate_ids root settings.loops {}).nodup
    hread.distinct⟩, stdout_loops h, hguards.symm,
    (insertedNames_inject h settings.loops settings.max).trans hguards.symm, hcode⟩

theorem listing_report_and_code_agree_sample : parse sampleText = .ok sampleTree
    ∧ (locate sampleTree LoopKind.all {}).1 ≠ []
    ∧ insertedNames (inject sampleTree (locate sampleTree LoopKind.all {}).1 10 (some usualStem))
      = (transform sampleText { max := 10, loops := LoopKind.all, indent := 2 }).guards := by
  have hmem : sampleLoop ∈ (locate sampleTree LoopKind.all {}).1 :=
    chosen_sample.located sampleLoop List.mem_cons_self
  have h := listing_report_and_code_agree parse_sampleText
    { max := 10, loops := LoopKind.all, indent := 2 }
  exact ⟨parse_sampleText, List.ne_nil_of_mem hmem, h.2.2.2.1⟩

end LoopBound
