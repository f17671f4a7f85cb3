import LoopBound.Proofs.Guard.Discovery

/-!
# Nodes in a row

The nodes that stand for a piece of the text lie in it one behind the other, each in a stretch of
its own: a node begins in its stretch, nothing below it begins before it, and its loops begin in the
stretch one after another, each where its word is written.

A node that is put together from a row of nodes lies in the stretch of the row. It begins where the
row does, or with the first of the nodes; a loop begins with its word, in front of all that it holds.
-/

namespace LoopBound.Reading

open LoopBound.Syntax LoopBound.Guard
open LoopBound.Text (Position)

variable {written : LoopPlace → Prop} {a b c : Position} {m n : Node} {ns ms : List Node}

/-! ## Loops one after another -/

/-- Loops that begin one after another between two positions, each where it is written. -/
structure Stretch (written : LoopPlace → Prop) (a b : Position) (ls : List LoopPlace) : Prop where
  le : a ≤ b
  bounds : ∀ l ∈ ls, a ≤ l.2 ∧ l.2 < b
  ascending : ls.Pairwise (·.2 < ·.2)
  written : ∀ l ∈ ls, written l

namespace Stretch

variable {ls ls' : List LoopPlace}

theorem nil (h : a ≤ b) : Stretch written a b [] :=
  ⟨h, by simp, .nil, by simp⟩

theorem append (h : Stretch written a b ls) (h' : Stretch written b c ls') :
    Stretch written a c (ls ++ ls') where
  le := h.le.trans h'.le
  bounds l hl := by
    rcases List.mem_append.1 hl with hl | hl
    · exact ⟨(h.bounds l hl).1, (h.bounds l hl).2.trans_le h'.le⟩
    · exact ⟨h.le.trans (h'.bounds l hl).1, (h'.bounds l hl).2⟩
  ascending := List.pairwise_append.2 ⟨h.ascending, h'.ascending,
    fun l hl l' hl' => (h.bounds l hl).2.trans_le (h'.bounds l' hl').1⟩
  written l hl := (List.mem_append.1 hl).elim (h.written l) (h'.written l)

theorem sublist (h : Stretch written a b ls) (hsub : ls'.Sublist ls) : Stretch written a b ls' where
  le := h.le
  bounds l hl := h.bounds l (hsub.subset hl)
  ascending := h.ascending.sublist hsub
  written l hl := h.written l (hsub.subset hl)

theorem widen {a' b' : Position} (h : Stretch written a b ls) (ha : a' ≤ a) (hb : b ≤ b') :
    Stretch written a' b' ls where
  le := (ha.trans h.le).trans hb
  bounds l hl := ⟨ha.trans (h.bounds l hl).1, (h.bounds l hl).2.trans_le hb⟩
  ascending := h.ascending
  written := h.written

/-- One more loop in front of all others. -/
theorem cons {k : LoopKind} (h : Stretch written c b ls) (hlt : a < c) (hwritten : written (k, a)) :
    Stretch written a b ((k, a) :: ls) where
  le := hlt.le.trans h.le
  bounds := List.forall_mem_cons.2 ⟨⟨le_refl a, hlt.trans_le h.le⟩,
    fun l hl => ⟨hlt.le.trans (h.bounds l hl).1, (h.bounds l hl).2⟩⟩
  ascending := List.pairwise_cons.2 ⟨fun l hl => hlt.trans_le (h.bounds l hl).1, h.ascending⟩
  written := List.forall_mem_cons.2 ⟨hwritten, h.written⟩

end Stretch

/-! ## A node in its stretch -/

/-- A target with a default begins where the target does. -/
def TargetFirst : Node → Prop
  | .assignmentPattern left _ p => p = left.loc
  | _ => True

/-- The node lies between two positions. -/
structure Within (written : LoopPlace → Prop) (a b : Position) (n : Node) : Prop where
  start : a ≤ n.loc
  stop : n.loc ≤ b
  nested : Nested n
  loops : Stretch written a b (loopPlaces n)
  target : TargetFirst n

namespace Within

theorem le (h : Within written a b n) : a ≤ b :=
  h.loops.le

theorem widen {a' b' : Position} (h : Within written a b n) (ha : a' ≤ a) (hb : b ≤ b') :
    Within written a' b' n :=
  ⟨ha.trans h.start, h.stop.trans hb, h.nested, h.loops.widen ha hb, h.target⟩

/-- A node that is no loop lies where its children do. -/
theorem of_children (hloop : n.loop? = none) (htarget : TargetFirst n) (hstart : a ≤ n.loc)
    (hstop : n.loc ≤ b) (hbelow : ∀ c ∈ n.children, n.loc ≤ c.loc ∧ Nested c)
    (hloops : Stretch written a b (n.children.flatMap loopPlaces)) : Within written a b n where
  start := hstart
  stop := hstop
  nested := (nested_iff n).2 hbelow
  loops := by
    rw [loopPlaces_of_none hloop]
    exact hloops
  target := htarget

/-- A node with nothing below it. -/
theorem of_leaf (hloop : n.loop? = none) (htarget : TargetFirst n) (hchildren : n.children = [])
    (hstart : a ≤ n.loc) (hstop : n.loc ≤ b) : Within written a b n := by
  refine of_children hloop htarget hstart hstop (by simp [hchildren]) ?_
  rw [hchildren]
  exact .nil (hstart.trans hstop)

end Within

/-! ## Rows -/

/-- The nodes lie between two positions, one behind the other. -/
inductive Row (written : LoopPlace → Prop) : Position → List Node → Position → Prop
  | nil {a b : Position} (h : a ≤ b) : Row written a [] b
  | cons {a b c : Position} {n : Node} {ns : List Node} (hn : Within written a b n)
      (h : Row written b ns c) : Row written a (n :: ns) c

namespace Row

theorem le (h : Row written a ns b) : a ≤ b := by
  induction h with
  | nil h => exact h
  | cons hn _ ih => exact hn.le.trans ih

/-- Where there is a row there is an empty one. -/
theorem empty (h : Row written a ns b) : Row written a [] b :=
  .nil h.le

theorem widen_left {a' : Position} (h : Row written a ns b) (ha : a' ≤ a) : Row written a' ns b := by
  cases h with
  | nil h => exact .nil (ha.trans h)
  | cons hn h => exact .cons (hn.widen ha (le_refl _)) h

theorem append (h : Row written a ns b) (h' : Row written b ms c) :
    Row written a (ns ++ ms) c := by
  induction h with
  | nil h => exact h'.widen_left h
  | cons hn _ ih => exact .cons hn (ih h')

theorem exists_of_append (h : Row written a (ns ++ ms) c) :
    ∃ b, Row written a ns b ∧ Row written b ms c := by
  induction ns generalizing a with
  | nil => exact ⟨a, .nil (le_refl a), h⟩
  | cons n ns ih =>
    cases h with
    | cons hn h =>
      obtain ⟨b, hns, hms⟩ := ih h
      exact ⟨b, .cons hn hns, hms⟩

theorem sublist (h : Row written a ns b) (hsub : ms.Sublist ns) : Row written a ms b := by
  induction h generalizing ms with
  | nil h =>
    rw [List.sublist_nil.1 hsub]
    exact .nil h
  | cons hn _ ih =>
    cases hsub with
    | cons _ hsub => exact (ih hsub).widen_left hn.le
    | cons_cons _ hsub => exact .cons hn (ih hsub)

theorem singleton_iff : Row written a [n] b ↔ Within written a b n := by
  constructor
  · intro h
    cases h with
    | cons hn h => exact hn.widen (le_refl a) h.le
  · exact fun h => .cons h (.nil (le_refl b))

theorem stretch (h : Row written a ns b) : Stretch written a b (ns.flatMap loopPlaces) := by
  induction h with
  | nil h => exact .nil h
  | cons hn _ ih => exact hn.loops.append ih

theorem start_le (h : Row written a ns b) : ∀ n ∈ ns, a ≤ n.loc ∧ Nested n := by
  induction h with
  | nil => simp
  | cons hn _ ih =>
    exact List.forall_mem_cons.2 ⟨⟨hn.start, hn.nested⟩,
      fun m hm => ⟨hn.le.trans (ih m hm).1, (ih m hm).2⟩⟩

/-- The first node begins before all others. -/
theorem first_le (h : Row written a (m :: ns) b) : ∀ n ∈ m :: ns, m.loc ≤ n.loc ∧ Nested n := by
  cases h with
  | cons hm h =>
    exact List.forall_mem_cons.2 ⟨⟨le_refl _, hm.nested⟩,
      fun n hn => ⟨hm.stop.trans (h.start_le n hn).1, (h.start_le n hn).2⟩⟩

/-! ## Putting nodes together -/

/-- A node that begins where the row does. -/
theorem node (h : Row written a ns b) (hloc : n.loc = a) (hloop : n.loop? = none)
    (htarget : TargetFirst n) (hchildren : n.children.Sublist ns) : Row written a [n] b := by
  rw [singleton_iff]
  refine .of_children hloop htarget hloc.ge (hloc.trans_le h.le) (fun c hc => ?_)
    (h.sublist hchildren).stretch
  rw [hloc]
  exact h.start_le c (hchildren.subset hc)

/-- A node that begins with the first of a row. -/
theorem first (h : Row written a (m :: ns) b) (hloc : n.loc = m.loc) (hloop : n.loop? = none)
    (htarget : TargetFirst n) (hchildren : n.children.Sublist (m :: ns)) : Row written a [n] b := by
  rw [singleton_iff]
  have hstop : m.loc ≤ b := by
    cases h with
    | cons hm h => exact hm.stop.trans h.le
  refine .of_children hloop htarget ?_ (hloc.trans_le hstop) (fun c hc => ?_)
    (h.sublist hchildren).stretch
  · rw [hloc]
    exact (h.start_le m List.mem_cons_self).1
  · rw [hloc]
    exact h.first_le c (hchildren.subset hc)

/-- A loop, which begins in front of the row. -/
theorem loop {l : Loop} (h : Row written c ns b) (hlt : a < c) (hloc : n.loc = a)
    (hloop : n.loop? = some l) (htarget : TargetFirst n) (hwritten : written (l.kind, a))
    (hchildren : n.children.Sublist ns) : Row written a [n] b := by
  rw [singleton_iff]
  have hrow := h.sublist hchildren
  refine ⟨hloc.ge, hloc.trans_le (hlt.le.trans h.le), (nested_iff n).2 fun d hd => ?_, ?_, htarget⟩
  · obtain ⟨hle, hnested⟩ := hrow.start_le d hd
    rw [hloc]
    exact ⟨hlt.le.trans hle, hnested⟩
  · rw [loopPlaces_of_some hloop, hloc]
    exact hrow.stretch.cons hlt hwritten

end Row

end LoopBound.Reading
