import LoopBound.Proofs.Layout.Buffer

/-!
# Decisions do not see the padding

The printer looks at text to decide whether a statement would be read as another one, whether a body
needs parentheses, and whether an object fits on a line. A text with padding behind its line feeds
(`Padded`) gets the same answers: words and braces have no line feeds in them, blanks are skipped,
and only a text without line feeds is measured.
-/

namespace LoopBound.Layout

open LoopBound.Text (isMargin)

/-- The second text is the first, with spaces behind line feeds. -/
inductive Padded : List Char → List Char → Prop
  | nil : Padded [] []
  | char (c : Char) {cs ds : List Char} : Padded cs ds → Padded (c :: cs) (c :: ds)
  | feed (k : Nat) {cs ds : List Char} : Padded cs ds →
      Padded ('\n' :: cs) ('\n' :: (List.replicate k ' ' ++ ds))

namespace Padded

variable {w cs ds cs' ds' : List Char} {word : String}

theorem refl (cs : List Char) : Padded cs cs := by
  induction cs with
  | nil => exact nil
  | cons c cs ih => exact ih.char c

theorem append (h : Padded cs ds) (h' : Padded cs' ds') : Padded (cs ++ cs') (ds ++ ds') := by
  induction h with
  | nil => exact h'
  | char c _ ih => exact ih.char c
  | feed k _ ih =>
    rw [List.cons_append, List.cons_append, List.append_assoc]
    exact ih.feed k

theorem head_eq (h : Padded cs ds) : cs.head? = ds.head? := by
  cases h with
  | nil => rfl
  | char => rfl
  | feed => rfl

/-- Blanks at the front are skipped, and with them all padding among them. -/
theorem dropWhile (h : Padded cs ds) :
    Padded (cs.dropWhile isMargin) (ds.dropWhile isMargin) := by
  induction h with
  | nil => exact nil
  | char c h ih =>
    rw [List.dropWhile_cons, List.dropWhile_cons]
    split
    · exact ih
    · exact h.char c
  | feed k _ ih =>
    have hskip (ds : List Char) :
        (List.replicate k ' ' ++ ds).dropWhile isMargin = ds.dropWhile isMargin := by
      induction k with
      | zero => rfl
      | succ k ihk =>
        rw [List.replicate_succ, List.cons_append, List.dropWhile_cons_of_pos (by decide), ihk]
    rw [List.dropWhile_cons_of_pos (by decide), List.dropWhile_cons_of_pos (by decide), hskip]
    exact ih

/-- A word without line feeds is in front of both texts or of neither. -/
theorem isPrefixOf_eq (hw : '\n' ∉ w) (h : Padded cs ds) : w.isPrefixOf cs = w.isPrefixOf ds := by
  induction w generalizing cs ds with
  | nil => rfl
  | cons d w ih =>
    rw [List.mem_cons, not_or] at hw
    cases h with
    | nil => rfl
    | char c h => rw [List.isPrefixOf_cons_cons, List.isPrefixOf_cons_cons, ih hw.2 h]
    | feed k h =>
      have hd : (d == '\n') = false := beq_false_of_ne (Ne.symm hw.1)
      rw [List.isPrefixOf_cons_cons, List.isPrefixOf_cons_cons, hd, Bool.false_and, Bool.false_and]

/-- What is behind such a word. -/
theorem drop (hw : '\n' ∉ w) (h : Padded cs ds) (hp : w.isPrefixOf cs = true) :
    Padded (cs.drop w.length) (ds.drop w.length) := by
  induction w generalizing cs ds with
  | nil => exact h
  | cons d w ih =>
    rw [List.mem_cons, not_or] at hw
    cases h with
    | nil => exact nil
    | char c h =>
      rw [List.isPrefixOf_cons_cons, Bool.and_eq_true] at hp
      exact ih hw.2 h hp.2
    | feed k h =>
      rw [List.isPrefixOf_cons_cons, Bool.and_eq_true, beq_iff_eq] at hp
      exact absurd hp.1.symm hw.1

/-- What is behind a word, without the blanks in front of it. -/
theorem behind (hw : '\n' ∉ word.toList) (h : Padded cs ds)
    (hp : word.toList.isPrefixOf cs = true) :
    Padded ((cs.drop word.length).dropWhile isMargin)
      ((ds.drop word.length).dropWhile isMargin) := by
  rw [← String.length_toList]
  exact (h.drop hw hp).dropWhile

theorem wordGoesOn_eq (h : Padded cs ds) : wordGoesOn cs = wordGoesOn ds := by
  cases h with
  | nil => rfl
  | char => rfl
  | feed => rfl

theorem beginsWithWord_eq (hw : '\n' ∉ word.toList) (h : Padded cs ds) :
    beginsWithWord word cs = beginsWithWord word ds := by
  rw [beginsWithWord, beginsWithWord, ← isPrefixOf_eq hw h]
  cases hp : word.toList.isPrefixOf cs with
  | false => rfl
  | true => rw [← String.length_toList, (h.drop hw hp).wordGoesOn_eq]

theorem looksLikeStatement_eq (h : Padded cs ds) :
    looksLikeStatement cs = looksLikeStatement ds := by
  -- What is behind a word matters only if the word is in front.
  have hasync : ("async".toList.isPrefixOf cs && cs[5]?.any isMargin &&
        beginsWithWord "function" ((cs.drop "async".length).dropWhile isMargin))
      = ("async".toList.isPrefixOf ds && ds[5]?.any isMargin &&
        beginsWithWord "function" ((ds.drop "async".length).dropWhile isMargin)) := by
    rw [← isPrefixOf_eq (by decide) h]
    cases hp : "async".toList.isPrefixOf cs with
    | false => rfl
    | true =>
      have hnext : cs[5]? = ds[5]? := by
        rw [← List.head?_drop, ← List.head?_drop]
        exact (h.drop (by decide) hp).head_eq
      rw [hnext, beginsWithWord_eq (by decide) (h.behind (by decide) hp)]
  have hlet : ("let".toList.isPrefixOf cs &&
        "[".toList.isPrefixOf ((cs.drop "let".length).dropWhile isMargin))
      = ("let".toList.isPrefixOf ds &&
        "[".toList.isPrefixOf ((ds.drop "let".length).dropWhile isMargin)) := by
    rw [← isPrefixOf_eq (by decide) h]
    cases hp : "let".toList.isPrefixOf cs with
    | false => rfl
    | true => rw [isPrefixOf_eq (by decide) (h.behind (by decide) hp)]
  simp only [looksLikeStatement]
  rw [hasync, hlet, isPrefixOf_eq (by decide) h, beginsWithWord_eq (by decide) h,
    beginsWithWord_eq (by decide) h]

end Padded

variable {indent depth : Nat}

theorem render_marksBelow (ls : List Line) :
    render indent (marksBelow depth ls) = [] ∨
      ∃ cs, render indent (marksBelow depth ls) = '\n' :: cs := by
  cases ls with
  | nil => exact .inl rfl
  | cons l ls =>
    obtain ⟨cs, hl⟩ := render_marks indent depth l
    rw [marksBelow_cons, render_append, hl]
    exact .inr ⟨_, rfl⟩

theorem padded_mark (m : Margin) : Padded ['\n'] ((m.mark depth).chars indent) := by
  cases m with
  | edge => exact .refl _
  | steps n =>
    have h := Padded.feed (indent * (n + depth)) .nil
    rwa [List.append_nil] at h

namespace Fragment

variable {f : Fragment} {fs : List Fragment} {s w : String} {ss ws vs : List String}

/-! ## Words and braces in front -/

theorem padded_text (f : Fragment) :
    Padded f.text.toList (render indent (f.marks depth)) := by
  have htext : f.text.toList
      = f.head.toList ++ f.tail.flatMap fun l => '\n' :: l.text.toList := by
    rw [← List.cons_inj_right '\n', text, Emitter.feed_intercalate, List.flatMap_cons,
      List.flatMap_map, List.cons_append]
  rw [htext, marks, render_append, render_plain]
  refine (Padded.refl _).append ?_
  induction f.tail with
  | nil => exact .nil
  | cons l ls ih =>
    rw [List.flatMap_cons, marksBelow_cons, render_append, Line.marks, render_cons, render_plain]
    exact ((padded_mark l.margin).append (.refl _)).append ih

/-- A text and its fragment would be read as another statement, or neither. -/
theorem Reads.looksLikeStatement_eq (h : f.Reads indent depth ws s) :
    looksLikeStatement f.text.toList = looksLikeStatement s.toList := by
  rw [h.chars]
  exact (padded_text f).looksLikeStatement_eq

theorem isPrefixOf_append {w cs ds : List Char} (hw : '\n' ∉ w)
    (hd : ds = [] ∨ ∃ r, ds = '\n' :: r) : w.isPrefixOf (cs ++ ds) = w.isPrefixOf cs := by
  induction w generalizing cs with
  | nil => rfl
  | cons d w ih =>
    rw [List.mem_cons, not_or] at hw
    cases cs with
    | cons c cs =>
      rw [List.cons_append, List.isPrefixOf_cons_cons, List.isPrefixOf_cons_cons, ih hw.2]
    | nil =>
      obtain rfl | ⟨r, rfl⟩ := hd
      · rfl
      · have hne : (d == '\n') = false := beq_false_of_ne (Ne.symm hw.1)
        rw [List.nil_append, List.isPrefixOf_cons_cons, hne, Bool.false_and]
        rfl

theorem Reads.beginsWith_eq (h : f.Reads indent depth ws s) (hw : '\n' ∉ w.toList) :
    f.beginsWith w = w.toList.isPrefixOf s.toList := by
  rw [beginsWith, h.chars, marks, render_append, render_plain,
    isPrefixOf_append hw (render_marksBelow _)]

/-! ## Objects -/

theorem marks_of_one_line (ht : f.tail = []) : f.marks depth = plain f.head.toList := by
  rw [marks, ht, marksBelow_nil, List.append_nil]

/-- A fragment on one line reads the same wherever it stands. -/
theorem Reads.anywhere {depth' : Nat} (h : f.Reads indent depth ws s) (ht : f.tail = []) :
    f.Reads indent depth' ws s := by
  have hmarks : f.marks depth = f.marks depth' := by
    rw [marks_of_one_line ht, marks_of_one_line ht]
  exact ⟨hmarks ▸ h.chars, h.head, hmarks ▸ h.literals⟩

/-- Only a text on one line is short enough. -/
theorem Reads.isInline_eq (h : f.Reads indent depth ws s) (width : Nat) :
    (f.tail.isEmpty && decide (f.head.length ≤ width))
      = (decide (s.length ≤ width) && !s.toList.contains '\n') := by
  cases ht : f.tail with
  | nil =>
    have hchars : s.toList = f.head.toList := by
      rw [h.chars, marks_of_one_line ht, render_plain]
    have hfeed : s.toList.contains '\n' = false := by
      rw [hchars, List.contains_eq_mem, decide_eq_false_iff_not]
      exact h.head
    rw [hfeed, String.toList_inj.1 hchars]
    simp
  | cons l ls =>
    have hfeed : s.toList.contains '\n' = true := by
      obtain ⟨cs, hl⟩ := render_marks indent depth l
      rw [h.chars, marks, ht, marksBelow_cons, render_append, render_append, hl]
      simp
    rw [hfeed]
    simp

/-- One row of an object. -/
theorem render_row {row : String}
    (hrow : '\n' :: row.toList = (Mark.feed (depth + 1)).chars indent)
    (h : f.Reads indent (depth + 1) ws s) :
    render indent (marksBelow depth (f.lines 1)) = '\n' :: (row ++ s).toList := by
  rw [marksBelow_lines, render_cons, ← hrow, String.toList_append, h.chars, List.cons_append]

/-- The rows of an object, with commas between them. -/
theorem render_rows {row : String}
    (hrow : '\n' :: row.toList = (Mark.feed (depth + 1)).chars indent)
    (hf : f.Reads indent (depth + 1) ws s) (hfs : ReadsAll indent (depth + 1) vs fs ss) (k : Nat) :
    render indent (marksBelow depth (((f :: fs).zipIdx k).flatMap fun (p, i) =>
        (if i < k + fs.length then p ++ "," else p).lines 1))
      = '\n' :: (",\n".intercalate ((s :: ss).map (row ++ ·))).toList := by
  induction hfs generalizing f s ws k with
  | nil =>
    simp [render_row hrow hf]
  | @cons _ _ g gs t ts hg hgs ih =>
    have hfirst := render_row hrow (hf.followed ",")
    have hrest := ih hg (k + 1)
    have hmore : k < k + (g :: gs).length := by simp
    have hlength : k + (g :: gs).length = k + 1 + gs.length := by simp; omega
    rw [List.zipIdx_cons, List.flatMap_cons]
    simp only [if_pos hmore]
    rw [marksBelow_append, render_append, hfirst, hlength, hrest]
    simp

/-- The literals stand in the rows. -/
theorem literals_rows (last k : Nat) (h : ReadsAll indent (depth + 1) ws fs ss) :
    Verbatim ws (marksBelow depth ((fs.zipIdx k).flatMap fun (p, i) =>
        (if i < last then p ++ "," else p).lines 1)) := by
  induction h generalizing k with
  | nil => exact .nil _
  | @cons ws vs f fs s ss hf hfs ih =>
    have hrow := Reads.ite (c := k < last) (hf.followed ",") hf
    rw [List.zipIdx_cons, List.flatMap_cons, marksBelow_append, marksBelow_lines]
    exact (hrow.literals.behind [.feed (depth + 1)]).append (ih (k + 1))

/-- An object reads the same in one piece and with its rows padded by hand. -/
theorem reads_objectOf {e : Emitter} {k : Nat} (he : e.At indent depth)
    (h : ReadsAll indent (depth + k + 1) ws fs ss) :
    (objectOf fs).Reads indent (depth + k) ws (writeObject e k ss) := by
  have hall := h
  cases h with
  | nil => exact reads_ofText _
  | @cons _ _ f fs s ss hf hfs =>
    have hinline := ((reads_join ", " hall).preceded "\x7b ").followed " \x7d"
    rw [objectOf, writeObject]
    simp only [List.isEmpty_cons, Bool.false_eq_true, if_false, hinline.isInline_eq]
    -- What fits has no line feeds, so the extra step of its values does not show.
    split
    · rename_i hfits
      rw [← hinline.isInline_eq, Bool.and_eq_true, List.isEmpty_iff] at hfits
      exact hinline.anywhere hfits.1
    · have hrow : '\n' :: (e.padAt (e.levelAt k + 1)).toList
          = (Mark.feed (depth + k + 1)).chars indent :=
        he.feed_padAt (by rw [he.levelAt]; rfl)
      have hclose : '\n' :: (e.padAt (e.levelAt k)).toList
          = (Mark.feed (depth + k)).chars indent :=
        he.feed_padAt (he.levelAt k)
      have hlast : (f :: fs).length - 1 = 0 + fs.length := by simp
      have hrows := render_rows hrow hf hfs 0
      refine ⟨?_, by simp, ?_⟩
      · rw [marks, marksBelow_append, render_append, render_append, render_plain, hlast, hrows]
        simp [marksBelow, Line.marks, Margin.mark, render_cons, render_plain, ← hclose]
      · rw [marks, marksBelow_append]
        exact ((literals_rows _ 0 hall).before _).behind _

end Fragment

end LoopBound.Layout
