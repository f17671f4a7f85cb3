import LoopBound.Proofs.Syntax.Shape
import LoopBound.Syntax.Rewrite
import LoopBound.Syntax.Walk

/-!
# Taking nodes out by their type

A rewriting may keep a node, or put a list in its place that holds the node alone or nothing. It
works from the leaves up, so a node that goes was rewritten first, together with everything below
it. The result is the same as if the topmost nodes that go had been cut out of the tree as it was:
a list closes over the gap, and a place for one node gets an empty block that begins where the node
did. Read from the root on, what is left stands in the order it had.
-/

namespace LoopBound.Syntax

open LoopBound.Text (Position)

/-! ## The rewriting -/

/-- What becomes of the nodes of one type. -/
inductive Fate where
  | stay | alone | gone
  deriving DecidableEq, Repr

/-- Replaces every node as the name of its type says: by itself, by a list of itself, or by the
empty list. -/
def byType (fate : String → Fate) : Rewriting := fun _ _ new =>
  match fate new.typeName with
  | .stay => .become new
  | .alone => .splice [new]
  | .gone => .splice []

namespace Node

theorem typeName_head (n : Node) : n.head.typeName = n.typeName := by
  cases n <;> rfl

theorem typeName_mapBelow (single : Node → Node) (splice : Node → List Node) (n : Node) :
    (n.mapBelow single splice).typeName = n.typeName := by
  rw [← typeName_head, head_mapBelow, typeName_head]

/-- The node's type is one of those that go. -/
def goes (fate : String → Fate) (n : Node) : Bool :=
  fate n.typeName == .gone

variable {fate : String → Fate}

/-! ## Cutting from the root down -/

/-- The node without the topmost nodes below it that go. -/
def pruned (fate : String → Fate) (n : Node) : Node :=
  n.withSlots (n.slots.attach.map fun ⟨s, _⟩ => s.mapMem
    (fun c _ => if c.goes fate then .blockStatement [] c.loc else c.pruned fate)
    (fun c _ => if c.goes fate then [] else [c.pruned fate]))
termination_by n
decreasing_by all_goals exact sizeOf_lt_of_mem_slot ‹_› ‹_›

/-- What a place for one node holds after the cut. -/
def sheltered (fate : String → Fate) (n : Node) : Node :=
  if n.goes fate then .blockStatement [] n.loc else n.pruned fate

/-- What a list holds after the cut where it held the node. -/
def spared (fate : String → Fate) (n : Node) : List Node :=
  if n.goes fate then [] else [n.pruned fate]

theorem pruned_eq (n : Node) : n.pruned fate = n.mapBelow (sheltered fate) (spared fate) := by
  rw [pruned, mapBelow]
  congr 1
  conv => rhs; rw [← List.attach_map_subtype_val n.slots, List.map_map]
  congr 1
  funext s
  exact Slot.mapMem_eq_map s.1 _ _

theorem typeName_pruned (n : Node) : (n.pruned fate).typeName = n.typeName := by
  rw [pruned_eq, typeName_mapBelow]

theorem single_byType (fate : String → Fate) (parent : Option Node) (n : Node) :
    (byType fate parent n (n.pruned fate)).single n = n.sheltered fate := by
  rw [byType, typeName_pruned]
  cases h : fate n.typeName <;> simp [sheltered, goes, h, Replacement.single]

theorem items_byType (fate : String → Fate) (parent : Option Node) (n : Node) :
    (byType fate parent n (n.pruned fate)).items = n.spared fate := by
  rw [byType, typeName_pruned]
  cases h : fate n.typeName <;> simp [spared, goes, h, Replacement.items]

/-- Whether the leaves or the root come first makes no difference. -/
theorem run_byType (fate : String → Fate) (parent : Option Node) (n : Node) :
    (byType fate).run parent n = byType fate parent n (n.pruned fate) := by
  induction n using induction_children generalizing parent with
  | h n ih =>
    rw [Rewriting.run_eq, pruned_eq]
    congr 1
    refine mapBelow_congr fun c hc => ?_
    rw [ih c hc (some n)]
    exact ⟨single_byType fate _ c, items_byType fate _ c⟩

/-- Where no node goes, nothing changes. -/
theorem pruned_of_forall {n : Node} (h : ∀ d ∈ n.preorder, d.goes fate = false) :
    n.pruned fate = n := by
  induction n using induction_children with
  | h n ih =>
    rw [pruned_eq]
    refine mapBelow_id fun c hc => ?_
    have hbelow := ((forall_preorder_iff n).1 h).2 c hc
    have hstays := hbelow c (mem_preorder_self c)
    rw [sheltered, spared, if_neg (by simp [hstays]), if_neg (by simp [hstays]), ih c hc hbelow]
    exact ⟨rfl, rfl⟩

/-- Of the types that go, only the blocks that were put in are left. -/
theorem eq_block_of_mem_sheltered {n d : Node} (hmem : d ∈ (n.sheltered fate).preorder)
    (hgoes : d.goes fate = true) :
    ∃ c ∈ n.preorder, c.goes fate = true ∧ d = .blockStatement [] c.loc := by
  induction n using induction_children generalizing d with
  | h n ih =>
    rw [sheltered] at hmem
    split at hmem
    case isTrue hn =>
      rw [preorder_eq] at hmem
      exact ⟨n, mem_preorder_self n, hn, by simpa [children, slots, Slot.nodes] using hmem⟩
    case isFalse hn =>
      rw [preorder_eq] at hmem
      rcases List.mem_cons.1 hmem with rfl | hmem
      · rw [goes, typeName_pruned] at hgoes
        exact absurd hgoes hn
      · obtain ⟨e, he, hd⟩ := List.mem_flatMap.1 hmem
        rw [pruned_eq] at he
        obtain ⟨c, hc, hcase⟩ := mem_children_mapBelow he
        have hin : e = c.sheltered fate := by
          rcases hcase with rfl | ⟨he, -⟩
          · rfl
          · rw [spared] at he
            split at he
            case isTrue => cases he
            case isFalse hstays => rw [List.mem_singleton.1 he, sheltered, if_neg hstays]
        obtain ⟨b, hb, hgone, rfl⟩ := ih c hc (hin ▸ hd) hgoes
        exact ⟨b, mem_preorder_of_mem_children hc hb, hgone, rfl⟩

/-! ## The items of a tree -/

/-- The texts between the nodes directly below, which only a template has. -/
def chunks : Node → List String
  | templateLiteral quasis _ _ => quasis
  | _ => []

theorem chunks_head (n : Node) : n.head.chunks = n.chunks := by
  cases n <;> rfl

end Node

namespace Slot

/-- The slot has room for more than one node. -/
def isList : Slot → Bool
  | many _ | sparse _ => true
  | _ => false

theorem isList_map (s : Slot) (single : Node → Node) (splice : Node → List Node) :
    (s.map single splice).isList = s.isList := by
  cases s <;> rfl

/-- The nodes and holes in the slot, in order. -/
def places : Slot → List (Option Node)
  | one n => [some n]
  | maybe n => n.toList.map some
  | many ns => ns.map some
  | sparse ns => ns

theorem mem_nodes_of_mem_places {s : Slot} {c : Node} (h : some c ∈ s.places) : c ∈ s.nodes := by
  cases s <;> simpa [places, nodes] using h

/-- What is collected from the places of a slot after a change, in terms of what they held before.
-/
theorem flatMap_places_map {α : Type} {s : Slot} {single : Node → Node}
    {splice : Node → List Node} {f g : Option Node → List α} (hhole : f none = g none)
    (hsingle : s.isList = false → ∀ c ∈ s.nodes, f (some (single c)) = g (some c))
    (hsplice : s.isList = true → ∀ c ∈ s.nodes, (splice c).flatMap (f ∘ some) = g (some c)) :
    (s.map single splice).places.flatMap f = s.places.flatMap g := by
  cases s with
  | one n => simpa [map, places] using hsingle rfl n (by simp [nodes])
  | maybe n =>
    cases n with
    | none => rfl
    | some n => simpa [map, places] using hsingle rfl n (by simp [nodes])
  | many ns =>
    simp only [map, places, List.flatMap_map, List.flatMap_assoc]
    exact List.flatMap_congr fun c hc => hsplice rfl c hc
  | sparse ns =>
    simp only [map, places, List.flatMap_assoc]
    refine List.flatMap_congr fun o ho => ?_
    cases o with
    | none => simpa using hhole
    | some c =>
      have hc := hsplice rfl c (List.mem_filterMap.2 ⟨some c, ho, rfl⟩)
      rw [← hc, List.flatMap_map]
      rfl

end Slot

/-- A node without what is below it, and whether it stands in a list; a hole of a list; or a text
between nodes. -/
inductive Item where
  | node (head : Node) (inList : Bool)
  | hole
  | chunk (text : String)

/-- An item of a tree, with the nodes it is part of, the outermost first. A node is part of
itself. -/
structure Entry where
  within : List Node
  item : Item

namespace Node

/-- The items of a tree in the order of the walk, where the root stands below the nodes of `above`.
-/
def entries (above : List Node) (inList : Bool) (n : Node) : List Entry :=
  ⟨above ++ [n], .node n.head inList⟩ :: n.chunks.map (fun text => ⟨above ++ [n], .chunk text⟩)
    ++ n.slots.attach.flatMap fun ⟨s, _⟩ => s.places.attach.flatMap fun
      | ⟨none, _⟩ => [⟨above ++ [n], .hole⟩]
      | ⟨some c, _⟩ => c.entries (above ++ [n]) s.isList
termination_by n
decreasing_by exact sizeOf_lt_of_mem_slot ‹_› (Slot.mem_nodes_of_mem_places ‹_›)

/-- The items at a place below the nodes of `above`. -/
def entriesAt (above : List Node) (inList : Bool) : Option Node → List Entry
  | none => [⟨above, .hole⟩]
  | some c => c.entries above inList

theorem entries_eq (above : List Node) (inList : Bool) (n : Node) : n.entries above inList
    = ⟨above ++ [n], .node n.head inList⟩ :: (n.chunks.map (fun text => ⟨above ++ [n], .chunk text⟩)
      ++ n.slots.flatMap fun s => s.places.flatMap (entriesAt (above ++ [n]) s.isList)) := by
  rw [entries, List.cons_append]
  congr 2
  conv => rhs; rw [← List.attach_map_subtype_val n.slots, List.flatMap_map]
  refine List.flatMap_congr fun ⟨s, hs⟩ _ => ?_
  conv => rhs; rw [← List.attach_map_subtype_val s.places, List.flatMap_map]
  refine List.flatMap_congr fun ⟨o, ho⟩ _ => ?_
  cases o <;> rfl

/-- All items of a tree are part of its root. -/
theorem isPrefix_within {above : List Node} {inList : Bool} {n : Node} {e : Entry}
    (h : e ∈ n.entries above inList) : above ++ [n] <+: e.within := by
  induction n using induction_children generalizing above inList with
  | h n ih =>
    rw [entries_eq, List.mem_cons, List.mem_append, List.mem_map, List.mem_flatMap] at h
    rcases h with rfl | ⟨text, -, rfl⟩ | ⟨s, hs, he⟩
    · exact List.prefix_rfl
    · exact List.prefix_rfl
    · obtain ⟨o, ho, he⟩ := List.mem_flatMap.1 he
      cases o with
      | none =>
        obtain rfl := List.mem_singleton.1 he
        exact List.prefix_rfl
      | some c =>
        have hc := List.mem_flatMap.2 ⟨s, hs, Slot.mem_nodes_of_mem_places ho⟩
        exact (List.prefix_append _ _).trans (ih c hc he)

end Node

variable {fate : String → Fate}

/-- No node of the list goes. -/
def allStay (fate : String → Fate) (ns : List Node) : Bool :=
  ns.all (! ·.goes fate)

theorem allStay_concat (ns : List Node) (n : Node) :
    allStay fate (ns ++ [n]) = (allStay fate ns && ! n.goes fate) := by
  simp [allStay]

theorem allStay_of_isPrefix {ns ms : List Node} (h : ns <+: ms) (hms : allStay fate ms = true) :
    allStay fate ns = true := by
  rw [allStay, List.all_eq_true] at *
  exact fun n hn => hms n (h.subset hn)

/-- What is left of an entry when the nodes that go are cut out: an item that is part of none of
them stays, and the topmost node that goes leaves an empty block unless it stands in a list. -/
def Entry.left? (fate : String → Fate) (e : Entry) : Option Item :=
  if allStay fate e.within then some e.item
  else match e.item with
    | .node head false =>
      if allStay fate e.within.dropLast then some (.node (.blockStatement [] head.loc) false)
      else none
    | _ => none

theorem Entry.left?_of_allStay {e : Entry} (h : allStay fate e.within = true) :
    e.left? fate = some e.item := by
  rw [left?, if_pos h]

theorem Entry.left?_of_dropLast {e : Entry} (h : allStay fate e.within.dropLast = false) :
    e.left? fate = none := by
  have hall : allStay fate e.within = false := by
    by_contra hall
    rw [allStay_of_isPrefix (List.dropLast_prefix _) (by simpa using hall)] at h
    cases h
  rw [left?, if_neg (by simp [hall])]
  split
  · rw [if_neg (by simp [h])]
  · rfl

namespace Node

/-- Nothing is left below a node that goes. -/
theorem left?_of_below {above : List Node} (h : allStay fate above = false) (inList : Bool)
    (n : Node) : (n.entries above inList).filterMap (Entry.left? fate) = [] := by
  rw [List.filterMap_eq_nil_iff]
  intro e he
  obtain ⟨ms, hms⟩ := isPrefix_within he
  have hfront : above <+: e.within.dropLast := by
    rw [← hms, List.append_assoc, List.dropLast_append_of_ne_nil (by simp)]
    exact List.prefix_append _ _
  apply Entry.left?_of_dropLast
  by_contra hdrop
  rw [allStay_of_isPrefix hfront (by simpa using hdrop)] at h
  cases h

/-- A topmost node that goes leaves an empty block, or nothing in a list. -/
theorem left?_of_goes {above : List Node} (h : allStay fate above = true) (inList : Bool) {n : Node}
    (hn : n.goes fate = true) : (n.entries above inList).filterMap (Entry.left? fate)
      = if inList then [] else [.node (.blockStatement [] n.loc) false] := by
  have hline : allStay fate (above ++ [n]) = false := by
    rw [allStay_concat, hn]
    simp
  have hchunks : (n.chunks.map fun text => (⟨above ++ [n], .chunk text⟩ : Entry)).filterMap
      (Entry.left? fate) = [] := by
    simp [List.filterMap_map, List.filterMap_eq_nil_iff, Entry.left?, hline]
  have hslots : (n.slots.flatMap fun s => s.places.flatMap
      (entriesAt (above ++ [n]) s.isList)).filterMap (Entry.left? fate) = [] := by
    simp only [List.filterMap_flatMap, List.flatMap_eq_nil_iff]
    intro s _ o _
    cases o with
    | none => simp [entriesAt, Entry.left?, hline]
    | some c => exact left?_of_below hline s.isList c
  rw [entries_eq, List.filterMap_cons, List.filterMap_append, hchunks, hslots]
  cases inList <;> simp [Entry.left?, hline, h, loc_head]

theorem entries_emptyBlock (above : List Node) (inList : Bool) (p : Position) :
    (blockStatement [] p).entries above inList
      = [⟨above ++ [blockStatement [] p], .node (blockStatement [] p) inList⟩] := by
  rw [entries_eq]
  rfl

/-- **What is left stands in the order it had.** -/
theorem entries_pruned {above : List Node} (h : allStay fate above = true)
    (above' : List Node) (inList : Bool) {n : Node} (hn : n.goes fate = false) :
    ((n.pruned fate).entries above' inList).map Entry.item
      = (n.entries above inList).filterMap (Entry.left? fate) := by
  induction n using induction_children generalizing above above' inList with
  | h n ih =>
    have hline : allStay fate (above ++ [n]) = true := by
      rw [allStay_concat, h, hn]
      rfl
    have hhead : (n.pruned fate).head = n.head := by
      rw [pruned_eq, head_mapBelow]
    have hchunks : (n.chunks.map fun text => (⟨above ++ [n], .chunk text⟩ : Entry)).filterMap
        (Entry.left? fate) = n.chunks.map .chunk := by
      simp [List.filterMap_map, Function.comp_def, Entry.left?, hline]
    have hslots : (n.pruned fate).slots = n.slots.map (Slot.map (sheltered fate) (spared fate)) := by
      rw [pruned_eq, slots_mapBelow]
    rw [entries_eq, entries_eq, List.map_cons, List.filterMap_cons,
      Entry.left?_of_allStay (e := ⟨above ++ [n], _⟩) hline, List.map_append, List.filterMap_append,
      hchunks, ← chunks_head (n.pruned fate), hhead, chunks_head, List.map_map, hslots,
      List.flatMap_map, List.map_flatMap, List.filterMap_flatMap]
    congr 2
    refine List.flatMap_congr fun s hs => ?_
    rw [Slot.isList_map, List.map_flatMap, List.filterMap_flatMap]
    have hchild : ∀ c ∈ s.nodes, c ∈ n.children := fun c hc => List.mem_flatMap.2 ⟨s, hs, hc⟩
    refine Slot.flatMap_places_map ?_ (fun hlist c hc => ?_) (fun hlist c hc => ?_)
    · simp [entriesAt, Entry.left?, hline]
    · rw [hlist, entriesAt, entriesAt, sheltered]
      split
      case isTrue hgoes =>
        rw [left?_of_goes hline false hgoes, entries_emptyBlock]
        rfl
      case isFalse hstays => exact ih c (hchild c hc) hline _ false (by simpa using hstays)
    · rw [hlist, entriesAt, spared]
      split
      case isTrue hgoes =>
        rw [left?_of_goes hline true hgoes]
        rfl
      case isFalse hstays =>
        rw [List.flatMap_singleton]
        exact ih c (hchild c hc) hline _ true (by simpa using hstays)

theorem goes_iff {n : Node} : n.goes fate = true ↔ fate n.typeName = .gone := by
  rw [goes, beq_iff_eq]

/-- What is part of no node that goes is left, in the order it had. -/
theorem sublist_left? (es : List Entry) :
    ((es.filter fun e => allStay fate e.within).map Entry.item).Sublist
      (es.filterMap (Entry.left? fate)) := by
  have hkept : (es.filter fun e => allStay fate e.within).map Entry.item
      = (es.filter fun e => allStay fate e.within).filterMap (Entry.left? fate) := by
    rw [← List.filterMap_eq_map]
    refine List.filterMap_congr fun e he => ?_
    rw [Entry.left?_of_allStay (by simpa using (List.mem_filter.1 he).2)]
    rfl
  rw [hkept]
  exact List.filter_sublist.filterMap _

/-- **Rewriting by type cuts out the topmost nodes that go, and nothing else.** -/
theorem byType_prunes {fate : String → Fate} {root : Node} (hroot : fate root.typeName ≠ .gone) :
    (byType fate).run none root = byType fate none root (root.pruned fate)
      ∧ (byType fate).apply root = root.pruned fate
      ∧ ((∀ d ∈ root.preorder, fate d.typeName ≠ .gone) → root.pruned fate = root)
      ∧ (∀ d ∈ (root.pruned fate).preorder, fate d.typeName = .gone →
          ∃ c ∈ root.preorder, fate c.typeName = .gone ∧ d = .blockStatement [] c.loc)
      ∧ ((root.pruned fate).entries [] false).map Entry.item
          = (root.entries [] false).filterMap (Entry.left? fate)
      ∧ (((root.entries [] false).filter fun e => allStay fate e.within).map Entry.item).Sublist
          (((root.pruned fate).entries [] false).map Entry.item) := by
  have hstays : root.goes fate = false := by
    rw [Bool.eq_false_iff, Ne, goes_iff]
    exact hroot
  have hsheltered : root.sheltered fate = root.pruned fate := by
    rw [sheltered, if_neg (by simp [hstays])]
  have hentries := entries_pruned (show allStay fate [] = true from rfl) [] false hstays
  refine ⟨run_byType fate none root, ?_, fun h => ?_, fun d hd hgone => ?_, hentries, ?_⟩
  · rw [Rewriting.apply, run_byType, single_byType, hsheltered]
  · exact pruned_of_forall fun d hd => by simpa [goes] using h d hd
  · obtain ⟨c, hc, hgoes, rfl⟩ := eq_block_of_mem_sheltered (hsheltered ▸ hd) (goes_iff.2 hgone)
    exact ⟨c, hc, goes_iff.1 hgoes, rfl⟩
  · rw [hentries]
    exact sublist_left? _

/-- A statement that goes leaves a block in a branch, and nothing in a list. -/
theorem byType_prunes_branch :
    let fate : String → Fate := fun name => if name = "DebuggerStatement" then .gone else .stay
    fate "Program" ≠ .gone
      ∧ (byType fate).apply (.program [.ifStatement (.thisExpression ⟨1, 5⟩)
          (.debuggerStatement ⟨1, 11⟩) none ⟨1, 1⟩, .debuggerStatement ⟨2, 1⟩] ⟨1, 1⟩)
        = .program [.ifStatement (.thisExpression ⟨1, 5⟩) (.blockStatement [] ⟨1, 11⟩) none ⟨1, 1⟩]
            ⟨1, 1⟩ := by
  intro fate
  have h : fate "Program" ≠ .gone := by decide
  have hthis : (thisExpression ⟨1, 5⟩).sheltered fate = thisExpression ⟨1, 5⟩ := by
    rw [sheltered, if_neg (by decide), pruned_eq]
    rfl
  have hif : (ifStatement (.thisExpression ⟨1, 5⟩) (.debuggerStatement ⟨1, 11⟩) none ⟨1, 1⟩).spared
      fate = [.ifStatement (.thisExpression ⟨1, 5⟩) (.blockStatement [] ⟨1, 11⟩) none ⟨1, 1⟩] := by
    rw [spared, if_neg (by decide), pruned_eq]
    change [ifStatement ((thisExpression ⟨1, 5⟩).sheltered fate) _ none _] = _
    rw [hthis]
    rfl
  refine ⟨h, (@byType_prunes fate (.program _ _) h).2.1.trans ?_⟩
  rw [pruned_eq]
  change program (spared fate _ ++ (spared fate _ ++ [])) _ = _
  rw [hif]
  rfl

end Node

end LoopBound.Syntax
