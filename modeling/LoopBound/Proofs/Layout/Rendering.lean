import LoopBound.Proofs.Layout.Marks
import LoopBound.Layout.Printer

/-!
# The characters of a layout

What fragments and lines come to once they are indented: `indent` spaces for every step, `depth`
steps around them. The marks of a fragment are put together as the fragment is, so a text that is
put together in the same way from the same pieces is what the fragment reads (`Fragment.Reads`).
-/

namespace LoopBound.Layout

/-- The line feed in front of a line. -/
def Margin.mark (depth : Nat) : Margin → Mark
  | edge => .char '\n'
  | steps n => .feed (n + depth)

/-- A line, with the line feed in front of it. -/
def Line.marks (depth : Nat) (l : Line) : List Mark :=
  l.margin.mark depth :: plain l.text.toList

/-- Lines, each with the line feed in front of it. -/
def marksBelow (depth : Nat) (ls : List Line) : List Mark :=
  ls.flatMap (Line.marks depth)

/-- The marks of a fragment. -/
def Fragment.marks (depth : Nat) (f : Fragment) : List Mark :=
  plain f.head.toList ++ marksBelow depth f.tail

variable {indent depth : Nat}

@[simp]
theorem marksBelow_nil : marksBelow depth [] = [] := rfl

theorem marksBelow_cons (l : Line) (ls : List Line) :
    marksBelow depth (l :: ls) = l.marks depth ++ marksBelow depth ls :=
  List.flatMap_cons

theorem marksBelow_append (ls ms : List Line) :
    marksBelow depth (ls ++ ms) = marksBelow depth ls ++ marksBelow depth ms :=
  List.flatMap_append

theorem mark_shift (m : Margin) (k : Nat) : (m.shift k).mark depth = m.mark (depth + k) := by
  cases m with
  | edge => rfl
  | steps n => rw [Margin.shift, Margin.mark, Margin.mark, Nat.add_assoc, Nat.add_comm k]

/-- Lines some steps further in. -/
theorem marksBelow_shift (k : Nat) (ls : List Line) :
    marksBelow depth (ls.map (Line.shift k)) = marksBelow (depth + k) ls := by
  rw [marksBelow, List.flatMap_map, marksBelow]
  congr 1
  funext l
  rw [Line.marks, Line.shift, mark_shift, Line.marks]

theorem marksBelow_extendLast (s : String) {ls : List Line} (h : ls ≠ []) :
    marksBelow depth (extendLast s ls) = marksBelow depth ls ++ plain s.toList := by
  fun_induction extendLast s ls with
  | case1 => exact absurd rfl h
  | case2 l => simp [marksBelow_cons, Line.marks, plain_append]
  | case3 l ls hls ih =>
    have hne : ls ≠ [] := by
      rintro rfl
      exact hls rfl
    rw [marksBelow_cons, ih hne, marksBelow_cons, List.append_assoc]

/-- A line begins with a line feed of one kind or the other. -/
theorem render_marks (indent depth : Nat) (l : Line) :
    ∃ cs, render indent (l.marks depth) = '\n' :: cs := by
  rw [Line.marks, render_cons]
  cases l.margin with
  | edge => exact ⟨_, rfl⟩
  | steps n => exact ⟨_, rfl⟩

theorem render_marksBelow_ne_nil (l : Line) (ls : List Line) :
    render indent (marksBelow depth (l :: ls)) ≠ [] := by
  obtain ⟨cs, hl⟩ := render_marks indent depth l
  rw [marksBelow_cons, render_append, hl]
  exact List.cons_ne_nil _ _

/-! ## Fragments -/

namespace Fragment

theorem marks_append (f g : Fragment) :
    (f ++ g).marks depth = f.marks depth ++ g.marks depth := by
  change (append f g).marks depth = _
  unfold append
  split
  · rename_i h
    simp [marks, h, plain_append]
  · rename_i l ls h
    have hne : f.tail ≠ [] := by simp [h]
    rw [marks, marksBelow_append, marksBelow_extendLast _ hne, marks, marks]
    simp [List.append_assoc]

/-- The lines of a text put together again. -/
theorem splitLines_chars (cs : List Char) :
    (splitLines cs).1 ++ (splitLines cs).2.flatMap ('\n' :: ·) = cs := by
  induction cs with
  | nil => rfl
  | cons c cs ih =>
    rw [splitLines]
    simp only
    split
    · rename_i hc
      rw [beq_iff_eq] at hc
      rw [hc, List.nil_append, List.flatMap_cons, List.cons_append, ih]
    · rw [List.cons_append, ih]

theorem marksBelow_edges (ls : List (List Char)) :
    marksBelow depth (ls.map fun l => ⟨.edge, String.ofList l⟩)
      = plain (ls.flatMap ('\n' :: ·)) := by
  induction ls with
  | nil => rfl
  | cons l ls ih =>
    rw [List.map_cons, marksBelow_cons, ih, List.flatMap_cons, plain_append, Line.marks,
      String.toList_ofList]
    rfl

theorem not_mem_splitLines (cs : List Char) : '\n' ∉ (splitLines cs).1 := by
  induction cs with
  | nil => exact List.not_mem_nil
  | cons c cs ih =>
    rw [splitLines]
    simp only
    split
    · exact List.not_mem_nil
    · rename_i hc
      rw [List.mem_cons, not_or]
      exact ⟨fun he => hc (beq_iff_eq.2 he.symm), ih⟩

/-- A text with the characters of the fragment. The line feeds of the fragment are between its
lines, and the literals `ws` stand in it. -/
structure Reads (indent depth : Nat) (ws : List String) (f : Fragment) (s : String) : Prop where
  chars : s.toList = render indent (f.marks depth)
  head : '\n' ∉ f.head.toList
  literals : Verbatim ws (f.marks depth)

variable {f g : Fragment} {s t : String} {ws vs : List String}

/-- The text of a token stands as it is, whatever its place. -/
theorem marks_ofText (s : String) : (ofText s).marks depth = plain s.toList := by
  rw [ofText, Fragment.marks]
  simp only [String.toList_ofList]
  rw [marksBelow_edges, ← plain_append, splitLines_chars]

theorem chars_ofText (s : String) : s.toList = render indent ((ofText s).marks depth) := by
  rw [marks_ofText, render_plain]

theorem not_mem_head_ofText (s : String) : '\n' ∉ (ofText s).head.toList := by
  rw [ofText]
  simp only [String.toList_ofList]
  exact not_mem_splitLines s.toList

theorem reads_ofText (s : String) : Reads indent depth [] (ofText s) s :=
  ⟨chars_ofText s, not_mem_head_ofText s, .nil _⟩

theorem reads_literal (s : String) : Reads indent depth [s] (ofText s) s :=
  ⟨chars_ofText s, not_mem_head_ofText s, marks_ofText s ▸ .text s⟩

theorem not_mem_head_append (hf : '\n' ∉ f.head.toList) (hg : '\n' ∉ g.head.toList) :
    '\n' ∉ (f ++ g).head.toList := by
  change '\n' ∉ (append f g).head.toList
  unfold append
  split
  · rw [String.toList_append, List.mem_append, not_or]
    exact ⟨hf, hg⟩
  · exact hf

theorem Reads.of_eq (h : Reads indent depth ws f s) (hws : ws = vs) : Reads indent depth vs f s :=
  hws ▸ h

theorem Reads.append (hf : Reads indent depth ws f s) (hg : Reads indent depth vs g t) :
    Reads indent depth (ws ++ vs) (f ++ g) (s ++ t) where
  chars := by rw [String.toList_append, hf.chars, hg.chars, marks_append, render_append]
  head := not_mem_head_append hf.head hg.head
  literals := by
    rw [marks_append]
    exact hf.literals.append hg.literals

theorem Reads.preceded (h : Reads indent depth ws f s) (t : String) :
    Reads indent depth ws (ofText t ++ f) (t ++ s) :=
  (reads_ofText t).append h

theorem Reads.followed (h : Reads indent depth ws f s) (t : String) :
    Reads indent depth ws (f ++ ofText t) (s ++ t) := by
  have h' := h.append (reads_ofText t)
  rwa [List.append_nil] at h'

theorem Reads.ite {c : Prop} [Decidable c] (hf : Reads indent depth ws f s)
    (hg : Reads indent depth ws g t) :
    Reads indent depth ws (if c then f else g) (if c then s else t) := by
  split
  · exact hf
  · exact hg

/-- Fragments and texts one by one, with all their literals. -/
inductive ReadsAll (indent depth : Nat) : List String → List Fragment → List String → Prop
  | nil : ReadsAll indent depth [] [] []
  | cons {ws vs : List String} {f : Fragment} {fs : List Fragment} {s : String}
      {ss : List String} : Reads indent depth ws f s → ReadsAll indent depth vs fs ss →
      ReadsAll indent depth (ws ++ vs) (f :: fs) (s :: ss)

theorem reads_join (between : String) {fs : List Fragment} {ss : List String}
    (h : ReadsAll indent depth ws fs ss) :
    Reads indent depth ws (join (ofText between) fs) (between.intercalate ss) := by
  induction h with
  | nil => exact reads_ofText ""
  | @cons ws vs f fs s ss hf hfs ih =>
    cases hfs with
    | nil => simpa [join] using hf
    | cons hg hgs =>
      rw [join, String.intercalate_cons_cons]
      · exact (hf.followed between).append ih
      · simp

/-- The fragment as lines of their own. -/
theorem marksBelow_lines (k : Nat) (f : Fragment) :
    marksBelow depth (f.lines k) = .feed (depth + k) :: f.marks (depth + k) := by
  rw [lines, marksBelow_cons, marksBelow_shift, Line.marks, Margin.mark, Nat.add_comm k, marks,
    List.cons_append]

end Fragment

end LoopBound.Layout
