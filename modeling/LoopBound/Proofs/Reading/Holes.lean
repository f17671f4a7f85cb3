import LoopBound.Proofs.Grammar.Slots
import LoopBound.Proofs.Layout.Rendering
import LoopBound.Proofs.Reading.Formed
import LoopBound.Proofs.Results

/-!
# Holes of an array

An array is a list of slots, some of which are empty. Printing writes a comma between two slots and
one more behind a hole at the end; reading makes an entry of every slot but an empty last one. The
two belong together: what is printed is read back with its holes where they were, and in any text the
entries are as many as the commas, and one more if something stands behind the last comma.
-/

namespace LoopBound.Reading

open LoopBound.Syntax LoopBound.Grammar LoopBound.Grammar.Pattern LoopBound.Layout
open LoopBound.Reading.Part
open LoopBound.Text (Position)

/-! ## Printed slots -/

variable {indent depth : Nat}

/-- A fragment as it is printed, `depth` steps of `indent` spaces around it. -/
def rendered (indent depth : Nat) (f : Fragment) : List Char :=
  render indent (f.marks depth)

/-- Slots as they are printed, from one of them on: commas and spaces between them, one more comma if
the last is a hole, the closing bracket, and what stands behind. -/
def slotsText (texts : List (List Char)) (hole : Bool) (behind : List Char) : List Char :=
  [',', ' '].intercalate texts ++ ((if hole then [','] else []) ++ ']' :: behind)

theorem slotsText_cons_cons (t u : List Char) (texts : List (List Char)) (hole : Bool)
    (behind : List Char) : slotsText (t :: u :: texts) hole behind
      = t ++ ',' :: ' ' :: slotsText (u :: texts) hole behind := by
  rw [slotsText, List.intercalate_cons_cons, slotsText]
  simp only [List.append_assoc, List.cons_append, List.nil_append]

theorem slotsText_singleton (t : List Char) (hole : Bool) (behind : List Char) :
    slotsText [t] hole behind = t ++ ((if hole then [','] else []) ++ ']' :: behind) := by
  rw [slotsText]
  simp

theorem rendered_append (f g : Fragment) :
    rendered indent depth (f ++ g) = rendered indent depth f ++ rendered indent depth g := by
  rw [rendered, Fragment.marks_append, render_append, rendered, rendered]

theorem rendered_text (s : String) : rendered indent depth (Fragment.ofText s) = s.toList := by
  rw [rendered, Fragment.marks_ofText, render_plain]

theorem rendered_join (parts : List Fragment) :
    rendered indent depth (Fragment.join (Fragment.ofText ", ") parts)
      = [',', ' '].intercalate (parts.map (rendered indent depth)) := by
  induction parts with
  | nil => exact rendered_text ""
  | cons f parts ih =>
    cases parts with
    | nil => simp [Fragment.join]
    | cons g parts =>
      rw [Fragment.join, rendered_append, rendered_append, rendered_text, ih]
      · exact List.intercalate_cons_cons.symm
      · simp

/-- The text of an array. -/
theorem rendered_array (parts : List Fragment) (hole : Bool) (behind : List Char) :
    rendered indent depth ("[" ++ elementsOf parts hole ++ "]") ++ behind
      = '[' :: slotsText (parts.map (rendered indent depth)) hole behind := by
  have hopen : "[".toList = ['['] := rfl
  have hclose : "]".toList = [']'] := rfl
  have hcomma : (if hole then "," else "").toList = if hole then [','] else [] := by
    cases hole <;> rfl
  rw [rendered_append, rendered_append, rendered_text, rendered_text, elementsOf, rendered_append,
    rendered_join, rendered_text, hopen, hclose, hcomma, slotsText]
  simp only [List.append_assoc, List.cons_append, List.nil_append]

/-- Every entry is printed, a hole as nothing. -/
theorem elements_holes {xs : List (Option Node)} {parts : List Fragment}
    (h : elements xs = .ok parts) :
    List.Forall₂ (fun x t => x = none → t = []) xs (parts.map (rendered indent depth)) := by
  induction xs generalizing parts with
  | nil =>
    obtain rfl := Except.ok.inj h
    exact .nil
  | cons x xs ih =>
    cases x with
    | none =>
      obtain ⟨more, hmore, hparts⟩ := exists_of_bind_ok h
      obtain rfl := Except.ok.inj hparts
      exact .cons (fun _ => rendered_text "") (ih hmore)
    | some n =>
      obtain ⟨o, -, h⟩ := exists_of_bind_ok h
      obtain ⟨f, -, h⟩ := exists_of_bind_ok h
      obtain ⟨more, hmore, hparts⟩ := exists_of_bind_ok h
      obtain rfl := Except.ok.inj hparts
      refine .cons ?_ (ih hmore)
      rintro ⟨⟩

/-! ## What is read of slots -/

variable (locate : List Char → Position) {r : Rule} {cs mid rest : List Char} {ts : List Tree}

/-- The meaning of the match of a rule. -/
theorem makes_of_takes (h : (rule r).Takes cs ts rest) :
    ∃ n us, ts = [.node r cs n us] ∧ Makes r (ofTree locate (.node r cs n us)) := by
  obtain ⟨n, us, rfl, -, -⟩ := takes_rule h
  obtain ⟨m, hm, htrees, -⟩ := h
  have hderives : Derives (rule r) m.trees := derives_match? hm
  rw [htrees] at hderives
  obtain ⟨_, _, _, htree, hbelow⟩ := hderives.exists_of_rule
  obtain ⟨-, rfl, rfl, rfl⟩ := Tree.node.inj (List.cons.inj htree).1
  refine ⟨n, us, rfl, ?_⟩
  rw [ofTree]
  exact makes_ofRule (handed_of_derives locate hbelow)

section

variable {item? : Part → Option Node}

theorem go_of_ne_comma {pending : Option Node} {q : Part} (h : q ≠ .comma) (ps : List Part) :
    entries.go item? pending (q :: ps) = entries.go item? (item? q) ps := by
  rw [entries.go]
  exact h

/-- A slot with a comma behind it makes one entry. -/
theorem entries_comma {us : List Tree} {o : Option Node}
    (h : ∀ ps, entries.go item? none (ofTree.ofTrees locate ts ++ ps) = entries.go item? o ps)
    (next : List Char) : entries item? (ofTree.ofTrees locate (ts ++ commaTree next :: us))
      = o :: entries item? (ofTree.ofTrees locate us) := by
  rw [entries, ofTrees_append, h]
  rfl

/-- The last slot makes one entry if it is filled. -/
theorem entries_close {o : Option Node}
    (h : ∀ ps, entries.go item? none (ofTree.ofTrees locate ts ++ ps) = entries.go item? o ps) :
    entries item? (ofTree.ofTrees locate ts) = (o.map some).toList := by
  have hend := h []
  rw [List.append_nil] at hend
  exact hend

/-! ## Commas and entries -/

/-- The tree is a comma. -/
def isComma : Tree → Bool
  | .node .comma .. => true
  | _ => false

/-- Where the last slot begins: behind the last comma, or where the first slot does. -/
def lastSlot (first : List Char) (ts : List Tree) : List Char :=
  match (ts.filter isComma).getLast? with
  | some t => t.rest
  | none => first

/-- What such rules make is an item of the list. -/
structure MakesItems (item? : Part → Option Node) (r : Rule) : Prop where
  notComma : r ≠ .comma
  notEmpty : (rule r).mayBeEmpty = false
  item : ∀ q, Makes r q → q ≠ .comma ∧ (item? q).isSome = true

/-- A slot keeps no comma, and it has an item or takes nothing. -/
theorem exists_slot (hr : MakesItems item? r) (h : (optional (rule r)).Takes cs ts mid) :
    ∃ o, (∀ ps, entries.go item? none (ofTree.ofTrees locate ts ++ ps) = entries.go item? o ps)
      ∧ ts.filter isComma = []
      ∧ (o.isSome = true ∧ mid.length < cs.length ∨ o = none ∧ mid = cs) := by
  rcases takes_optional h with h | ⟨rfl, rfl⟩
  · have hlt := h.ends.length_lt hr.notEmpty
    obtain ⟨n, us, rfl, hmakes⟩ := makes_of_takes locate h
    obtain ⟨hcomma, hitem⟩ := hr.item _ hmakes
    refine ⟨_, fun ps => go_of_ne_comma hcomma ps, ?_, .inl ⟨hitem, hlt⟩⟩
    have hno : isComma (.node r cs n us) = false := by
      cases hrule : isComma (.node r cs n us) with
      | false => rfl
      | true =>
        unfold isComma at hrule
        split at hrule
        · rename_i he
          exact absurd (Tree.node.inj he).1 hr.notComma
        · cases hrule
    rw [List.filter_cons, hno]
    rfl
  · exact ⟨none, fun ps => rfl, rfl, .inr ⟨rfl, rfl⟩⟩

theorem lastSlot_comma {us : List Tree} (h : ts.filter isComma = []) (first next : List Char) :
    lastSlot first (ts ++ commaTree next :: us) = lastSlot next us := by
  have hrest : (commaTree next).rest = next := rfl
  have hcomma : isComma (commaTree next) = true := rfl
  rw [lastSlot, List.filter_append, h, List.nil_append, List.filter_cons, if_pos hcomma,
    List.getLast?_cons, lastSlot]
  cases (us.filter isComma).getLast? with
  | none => exact hrest
  | some t => rfl

/-- **An entry for every comma, and one more if something stands behind the last one.** -/
theorem length_entries (hr : MakesItems item? r) (h : SlotsTake (rule r) cs ts rest)
    {first : List Char} (hfirst : skip first = cs) :
    (entries item? (ofTree.ofTrees locate ts)).length
      = ts.countP isComma + if skip (lastSlot first ts) = ']' :: rest then 0 else 1 := by
  induction h generalizing first with
  | @close cs mid rest ts h hclose =>
    obtain ⟨o, hgo, hno, hslot⟩ := exists_slot locate hr h
    have hlast : lastSlot first ts = first := by
      rw [lastSlot, hno]
      rfl
    rw [entries_close locate hgo, List.countP_eq_length_filter, hno, hlast, hfirst]
    rcases hslot with ⟨hitem, hlt⟩ | ⟨rfl, rfl⟩
    · have hne : cs ≠ ']' :: rest := by
        have hle := length_skip_le mid
        rw [hclose] at hle
        rintro rfl
        omega
      obtain ⟨n, rfl⟩ := Option.isSome_iff_exists.1 hitem
      rw [if_neg hne]
      rfl
    · have heq : mid = ']' :: rest := by
        rw [← hclose, ← hfirst, skip_skip]
      rw [if_pos heq]
      rfl
  | @comma cs mid next rest ts us h hcomma hmore ih =>
    obtain ⟨o, hgo, hno, -⟩ := exists_slot locate hr h
    have hcount : (ts ++ commaTree next :: us).countP isComma = us.countP isComma + 1 := by
      rw [List.countP_append, List.countP_eq_length_filter, hno, List.countP_cons_of_pos rfl]
      exact Nat.zero_add _
    rw [entries_comma locate hgo, List.length_cons, ih rfl, hcount, lastSlot_comma hno]
    omega

end

/-! ## Reading printed slots back -/

/-- Every element is read back where it is printed: the item rule takes all of its text, up to the
comma or the bracket behind it, and what it makes is the same node. -/
def ReadsBack (same : Node → Node → Prop) (xs : List (Option Node)) (texts : List (List Char))
    (behind : List Char) : Prop :=
  ∀ i e t, xs[i]? = some (some e) → texts[i]? = some t →
    ∃ tree e', (rule .arrayElement).match? (slotsText (texts.drop i) (endsInHole xs) behind)
        = some ⟨t.length, [tree]⟩
      ∧ ofTree locate tree = .item e' ∧ same e e'

variable {same : Node → Node → Prop} {x : Option Node} {xs : List (Option Node)} {t : List Char}
  {texts : List (List Char)} {behind : List Char}

theorem makesItems_arrayElement : MakesItems item? .arrayElement where
  notComma := by decide
  notEmpty := by decide
  item := by
    rintro q ⟨n, rfl, -⟩
    exact ⟨nofun, rfl⟩

theorem makesItems_arrayPatternItem : MakesItems pattern? .arrayPatternItem where
  notComma := by decide
  notEmpty := by decide
  item := by
    rintro q ⟨n, rfl, -⟩
    exact ⟨nofun, rfl⟩

theorem arrayElement_refuses_marks :
    listMarks.all (fun l => (rule .arrayElement).ask l = .refuses) = true := by
  decide +kernel

theorem front_bracket (behind : List Char) : Front listMarks (']' :: behind) :=
  front_closer (by decide) behind

theorem skip_mark (h : Front listMarks cs) : skip cs = cs :=
  h.skip_eq (by decide)

theorem skip_space (cs : List Char) : skip (' ' :: cs) = skip cs :=
  (skip_drop_layoutPiece (' ' :: cs)).symm

/-- An empty last slot takes the bracket. -/
theorem slotsTake_nothing (behind : List Char) :
    SlotsTake (rule .arrayElement) (']' :: behind) [] behind :=
  .close (takes_optional_of_refuses ((front_bracket behind).refuses arrayElement_refuses_marks))
    (skip_mark (front_bracket behind))

/-- A printed slot is read as what it was printed from. -/
theorem exists_slot_read (hhole : x = none → t = []) (hmid : Front listMarks mid)
    (hread : ∀ e, x = some e → ∃ tree e',
      (rule .arrayElement).match? (t ++ mid) = some ⟨t.length, [tree]⟩
        ∧ ofTree locate tree = .item e' ∧ same e e') :
    skip (t ++ mid) = t ++ mid ∧ ∃ o ts, (optional (rule .arrayElement)).Takes (t ++ mid) ts mid
      ∧ (∀ ps, entries.go item? none (ofTree.ofTrees locate ts ++ ps) = entries.go item? o ps)
      ∧ Option.Rel same x o := by
  cases x with
  | none =>
    rw [hhole rfl, List.nil_append]
    exact ⟨skip_mark hmid, none, [],
      takes_optional_of_refuses (hmid.refuses arrayElement_refuses_marks), fun ps => rfl, .none⟩
  | some e =>
    obtain ⟨tree, e', hmatch, htree, hsame⟩ := hread e rfl
    have htake : (rule .arrayElement).Takes (t ++ mid) [tree] mid :=
      ⟨_, hmatch, rfl, List.drop_left⟩
    refine ⟨skip_of_arrayElement htake.ends, some e', [tree], takes_optional_of htake, ?_,
      .some hsame⟩
    intro ps
    have hne : Part.item e' ≠ .comma := nofun
    rw [ofTree.ofTrees, htree]
    exact go_of_ne_comma hne ps

theorem readsBack_tail {y : Option Node} {u : List Char}
    (h : ReadsBack locate same (x :: y :: xs) (t :: u :: texts) behind) :
    ReadsBack locate same (y :: xs) (u :: texts) behind := by
  intro i e v hx ht
  exact h (i + 1) e v hx ht

/-- Slots that are printed take all of their text, and make the entries that were printed. -/
theorem slotsTake_printed (h : ReadsBack locate same (x :: xs) (t :: texts) behind)
    (hholes : List.Forall₂ (fun x t => x = none → t = []) (x :: xs) (t :: texts)) :
    skip (slotsText (t :: texts) (endsInHole (x :: xs)) behind)
        = slotsText (t :: texts) (endsInHole (x :: xs)) behind
      ∧ ∃ ts, SlotsTake (rule .arrayElement)
          (slotsText (t :: texts) (endsInHole (x :: xs)) behind) ts behind
        ∧ List.Forall₂ (Option.Rel same) (x :: xs) (entries item? (ofTree.ofTrees locate ts)) := by
  induction xs generalizing x t texts with
  | nil =>
    cases hholes with
    | cons hhole hnil =>
    cases hnil
    have hfirst := fun e he => h 0 e t (congrArg some he) rfl
    rw [List.drop_zero] at hfirst
    rw [slotsText_singleton] at hfirst ⊢
    cases x with
    | none =>
      -- The comma behind the hole is followed by an empty slot, which makes no entry.
      obtain ⟨hskip, o, us, htake, hgo, hsame⟩ :=
        exists_slot_read locate hhole (front_comma (']' :: behind)) hfirst
      refine ⟨hskip, us ++ commaTree (']' :: behind) :: [],
        .comma htake (skip_mark (front_comma _)) ?_, ?_⟩
      · rw [skip_mark (front_bracket behind)]
        exact slotsTake_nothing behind
      · rw [entries_comma locate hgo]
        exact .cons hsame .nil
    | some e =>
      obtain ⟨hskip, o, us, htake, hgo, hsame⟩ :=
        exists_slot_read locate hhole (front_bracket behind) hfirst
      refine ⟨hskip, us, .close htake (skip_mark (front_bracket behind)), ?_⟩
      rw [entries_close locate hgo]
      cases hsame with
      | some hsame => exact .cons (.some hsame) .nil
  | cons y ys ih =>
    cases hholes with
    | cons hhole hmore =>
    cases texts with
    | nil => cases hmore
    | cons u texts =>
      have hfirst := fun e he => h 0 e t (congrArg some he) rfl
      have hlast : endsInHole (x :: y :: ys) = endsInHole (y :: ys) := rfl
      rw [List.drop_zero, hlast] at hfirst
      rw [hlast]
      rw [slotsText_cons_cons] at hfirst ⊢
      obtain ⟨hskip, ts, hslots, hentries⟩ := ih (readsBack_tail locate h) hmore
      obtain ⟨htight, o, us, htake, hgo, hsame⟩ :=
        exists_slot_read locate hhole (front_comma _) hfirst
      refine ⟨htight, us ++ commaTree _ :: ts, .comma htake (skip_mark (front_comma _)) ?_, ?_⟩
      · rw [skip_space, hskip]
        exact hslots
      · rw [entries_comma locate hgo]
        exact .cons hsame hentries

/-- The slots of a printed array are taken up to its bracket, and make the entries of the array. -/
theorem slots_printed {parts : List Fragment} (hparts : elements xs = .ok parts)
    (h : ReadsBack locate same xs (parts.map (rendered indent depth)) behind) :
    ∃ ts, Rule.arrayLiteral.pattern.Takes
        (rendered indent depth ("[" ++ elementsOf parts (endsInHole xs) ++ "]") ++ behind) ts behind
      ∧ List.Forall₂ (Option.Rel same) xs (entries item? (ofTree.ofTrees locate ts)) := by
  have hholes : List.Forall₂ (fun x t => x = none → t = []) xs
      (parts.map (rendered indent depth)) := elements_holes hparts
  rw [rendered_array]
  generalize parts.map (rendered indent depth) = texts at h hholes
  cases hholes with
  | nil =>
    have htext : slotsText [] (endsInHole []) behind = ']' :: behind := rfl
    refine ⟨[], takes_slots_iff.2 ⟨_, rfl, ?_⟩, .nil⟩
    rw [htext, skip_mark (front_bracket behind)]
    exact slotsTake_nothing behind
  | cons hhole hmore =>
    obtain ⟨hskip, ts, hslots, hentries⟩ := slotsTake_printed locate h (.cons hhole hmore)
    exact ⟨ts, takes_slots_iff.2 ⟨_, rfl, hskip.symm ▸ hslots⟩, hentries⟩

/-- The entries of an array, told by its commas. -/
theorem entries_of_match {q : Rule} {item? : Part → Option Node} (hq : MakesItems item? q)
    (hr : r.pattern = slots (rule q)) {m : Matched} (h : (rule r).match? cs = some m) :
    ∃ kids, m.trees = [.node r cs m.length kids]
      ∧ (entries item? (ofTree.ofTrees locate kids)).length = kids.countP isComma
        + if skip (lastSlot cs.tail kids) = ']' :: cs.drop m.length then 0 else 1 := by
  rw [match?_rule, Option.map_eq_some_iff] at h
  obtain ⟨m, hm, rfl⟩ := h
  rw [hr] at hm
  obtain ⟨ds, rfl, hslots⟩ := takes_slots_iff.1 ⟨m, hm, rfl, rfl⟩
  exact ⟨m.trees, rfl, length_entries locate hq hslots rfl⟩

/-- What an array means: a literal is an expression, in a binding it is a pattern. -/
def arrayOf (r : Rule) (es : List (Option Node)) (loc : Position) : Part :=
  match r with
  | .arrayPattern => .pattern (.arrayPattern es loc)
  | _ => .expression (.arrayExpression es loc)

/-- **Holes are neither lost nor invented.** Where the elements of a list are read back as they were
printed, in whatever sense of being the same, the array literal that is printed of the list is taken
as a whole, and its entries are those of the list, holes among them, one by one. And whatever array
is matched, literal or pattern, has an entry for every comma, and one more if anything but layout
stands between the last comma, or the opening bracket if there is none, and the closing bracket. -/
theorem holes_kept (locate : List Char → Position) :
    (∀ (same : Node → Node → Prop) (indent depth : Nat) (xs : List (Option Node))
        (parts : List Fragment) (behind : List Char), elements xs = .ok parts →
      ReadsBack locate same xs (parts.map (rendered indent depth)) behind →
      let text := rendered indent depth ("[" ++ elementsOf parts (endsInHole xs) ++ "]")
      ∃ tree es, (rule .arrayLiteral).match? (text ++ behind) = some ⟨text.length, [tree]⟩
        ∧ ofTree locate tree = arrayOf .arrayLiteral es (locate (text ++ behind))
        ∧ List.Forall₂ (Option.Rel same) xs es)
    ∧ (∀ r ∈ [Rule.arrayLiteral, .arrayPattern], ∀ (cs : List Char) (m : Matched),
        (rule r).match? cs = some m →
      ∃ kids es, m.trees = [.node r cs m.length kids]
        ∧ ofTree locate (.node r cs m.length kids) = arrayOf r es (locate cs)
        ∧ es.length = kids.countP isComma
          + if skip (lastSlot cs.tail kids) = ']' :: cs.drop m.length then 0 else 1) := by
  constructor
  · intro same indent depth xs parts behind hparts h text
    have hslots : ∃ ts, Rule.arrayLiteral.pattern.Takes (text ++ behind) ts behind
        ∧ List.Forall₂ (Option.Rel same) xs (entries item? (ofTree.ofTrees locate ts)) :=
      slots_printed locate hparts h
    obtain ⟨_, ⟨m, hm, rfl, hdrop⟩, hentries⟩ := hslots
    have hlength : m.length = text.length := by
      have hle := match?_le hm
      have hrest := congrArg List.length hdrop
      rw [List.length_drop, List.length_append] at hrest
      rw [List.length_append] at hle
      omega
    refine ⟨.node .arrayLiteral (text ++ behind) text.length m.trees, _, ?_, rfl, hentries⟩
    rw [match?_rule, hm, Option.map_some, hlength]
  · intro r hr cs m hm
    rw [List.mem_cons, List.mem_singleton] at hr
    rcases hr with rfl | rfl
    · obtain ⟨kids, htrees, hlength⟩ := entries_of_match locate makesItems_arrayElement rfl hm
      exact ⟨kids, _, htrees, rfl, hlength⟩
    · obtain ⟨kids, htrees, hlength⟩ := entries_of_match locate makesItems_arrayPatternItem rfl hm
      exact ⟨kids, _, htrees, rfl, hlength⟩

/-- Entries that are equal one by one are the same list. -/
theorem eq_of_forall₂_eq {es : List (Option Node)} (h : List.Forall₂ (Option.Rel Eq) xs es) :
    es = xs := by
  induction h with
  | nil => rfl
  | cons hentry _ ih =>
    cases hentry with
    | none => rw [ih]
    | some he => rw [ih, he]

/-- A hole in front, a name, and a hole at the end. -/
def sampleEntries : List (Option Node) :=
  [none, some (.identifier "x" {}), none]

/-- The match is one character that is read as the name. -/
def isSampleItem : Option Matched → Bool
  | some ⟨1, [tree]⟩ =>
    match ofTree (fun _ => {}) tree with
    | .item (.identifier s p) => s == "x" && p == {}
    | _ => false
  | _ => false

theorem isSampleItem_eq_true {o : Option Matched} (h : isSampleItem o = true) :
    ∃ tree, o = some ⟨1, [tree]⟩ ∧ ofTree (fun _ => {}) tree = .item (.identifier "x" {}) := by
  unfold isSampleItem at h
  split at h
  · rename_i tree
    split at h
    · rename_i s p htree
      rw [Bool.and_eq_true, beq_iff_eq, beq_iff_eq] at h
      rw [h.1, h.2] at htree
      exact ⟨tree, rfl, htree⟩
    · cases h
  · cases h

/-- The printed sample is read back, with one entry for each of its three commas. -/
theorem holes_kept_sample : ∃ kids,
    (rule .arrayLiteral).match? "[, x, ,]".toList
        = some ⟨8, [.node .arrayLiteral "[, x, ,]".toList 8 kids]⟩
      ∧ ofTree (fun _ => {}) (.node .arrayLiteral "[, x, ,]".toList 8 kids)
        = .expression (.arrayExpression sampleEntries {})
      ∧ 3 = kids.countP isComma
        + if skip (lastSlot ", x, ,]".toList kids) = [']'] then 0 else 1 := by
  obtain ⟨hprinted, hcounted⟩ := holes_kept fun _ => {}
  have hparts : elements sampleEntries = .ok ["", "x", ""] := rfl
  have hreads : ReadsBack (fun _ => {}) Eq sampleEntries
      ((["", "x", ""] : List Fragment).map (rendered 2 0)) [] := by
    intro i e t he ht
    match i with
    | 0 => cases he
    | 1 =>
      obtain rfl := Option.some.inj (Option.some.inj he)
      obtain rfl := Option.some.inj ht
      have htext : slotsText ((["", "x", ""] : List Fragment).map (rendered 2 0) |>.drop 1)
          (endsInHole sampleEntries) [] = "x, ,]".toList := by decide +kernel
      have hitem : isSampleItem ((rule .arrayElement).match? "x, ,]".toList) = true := by
        decide +kernel
      obtain ⟨tree, hmatch, htree⟩ := isSampleItem_eq_true hitem
      exact ⟨tree, _, htext ▸ hmatch, htree, rfl⟩
    | 2 => cases he
    | n + 3 => cases he
  obtain ⟨tree, es, hmatch, htree, hes⟩ := hprinted Eq 2 0 sampleEntries _ [] hparts hreads
  have htext : rendered 2 0 ("[" ++ elementsOf ["", "x", ""] (endsInHole sampleEntries) ++ "]")
      = "[, x, ,]".toList := by decide +kernel
  rw [htext, List.append_nil] at hmatch
  obtain ⟨kids, es', hkids, htree', hlength⟩ :=
    hcounted .arrayLiteral List.mem_cons_self _ _ hmatch
  obtain rfl : tree = .node .arrayLiteral "[, x, ,]".toList 8 kids := (List.cons.inj hkids).1
  rw [eq_of_forall₂_eq hes] at htree
  obtain rfl : sampleEntries = es' :=
    (Node.arrayExpression.inj (Part.expression.inj (htree.symm.trans htree'))).1
  exact ⟨kids, hmatch, htree, hlength⟩

end LoopBound.Reading
