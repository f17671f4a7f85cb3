import LoopBound.Proofs.Layout.Agreement

/-!
# The layout does not depend on the width of the steps

A tree is printed with any width of the steps or with none, and the texts differ in nothing but the
spaces in front of their lines: every line stands at a depth, and the depths are those of the marks
that the tree comes to. A line that begins within a literal stands at depth zero.
-/

namespace LoopBound.Layout

open LoopBound.Syntax

/-- The lines of a text. -/
def linesOf (text : String) : List (List Char) :=
  text.toList.splitOn '\n'

/-- A line with spaces in front, `indent` of them for every step. -/
def indentLine (indent depth : Nat) (line : List Char) : List Char :=
  List.replicate (indent * depth) ' ' ++ line

/-- The text with spaces in front of its lines, each at its own depth. -/
def indentLines (indent : Nat) (depths : List Nat) (text : String) : String :=
  String.ofList (['\n'].intercalate (List.zipWith (indentLine indent) depths (linesOf text)))

/-- The depths of the lines that begin behind the marks. -/
def depths (ms : List Mark) : List Nat :=
  ms.filterMap Mark.depth?

/-- The marks of lines, with a line feed in front of each; a text without any has a line, too. -/
def marksOf (ls : List Line) : List Mark :=
  if ls.isEmpty then [.feed 0] else marksBelow 0 ls

variable {indent : Nat}

/-! ## Splitting into lines -/

theorem splitOn_feed (cs : List Char) : ('\n' :: cs).splitOn '\n' = [] :: cs.splitOn '\n' :=
  List.splitOn_append_cons_self [] cs

theorem splitOn_char {c : Char} (hc : c ≠ '\n') (cs : List Char) :
    (c :: cs).splitOn '\n' = (cs.splitOn '\n').modifyHead (c :: ·) := by
  rw [List.splitOn_cons_eq_if_modifyHead, if_neg (by simpa using hc)]

theorem splitOn_spaces (k : Nat) (cs : List Char) :
    (List.replicate k ' ' ++ cs).splitOn '\n'
      = (cs.splitOn '\n').modifyHead (List.replicate k ' ' ++ ·) := by
  induction k with
  | zero => exact (congrFun List.modifyHead_id _).symm
  | succ k ih =>
    rw [List.replicate_succ, List.cons_append, splitOn_char (by decide), ih,
      List.modifyHead_modifyHead]
    rfl

theorem exists_splitOn (cs : List Char) : ∃ first others, cs.splitOn '\n' = first :: others :=
  List.exists_cons_of_ne_nil (List.splitOn_ne_nil _ _)

/-! ## Depths -/

theorem depths_cons_none {m : Mark} (h : m.depth? = none) (ms : List Mark) :
    depths (m :: ms) = depths ms :=
  List.filterMap_cons_none h

theorem depths_cons_some {m : Mark} {depth : Nat} (h : m.depth? = some depth) (ms : List Mark) :
    depths (m :: ms) = depth :: depths ms :=
  List.filterMap_cons_some h

theorem modifyHead_indentLine_zero (lines : List (List Char)) :
    lines.modifyHead (indentLine indent 0) = lines :=
  congrFun List.modifyHead_id lines

/-- A mark that begins a line, and the spaces in front of that line. -/
theorem splitOn_mark {m : Mark} {depth : Nat} (h : m.depth? = some depth) (cs : List Char) :
    (m.chars indent ++ cs).splitOn '\n'
      = [] :: (cs.splitOn '\n').modifyHead (indentLine indent depth) := by
  cases m with
  | char c =>
    obtain ⟨rfl, rfl⟩ : c = '\n' ∧ 0 = depth := by simpa [Mark.depth?] using h
    rw [Mark.chars, List.singleton_append, splitOn_feed, modifyHead_indentLine_zero]
  | feed k =>
    obtain rfl : k = depth := by simpa [Mark.depth?] using h
    rw [Mark.chars, List.cons_append, splitOn_feed, splitOn_spaces]
    rfl

theorem eq_char_of_depth?_eq_none {m : Mark} (h : m.depth? = none) :
    ∃ c, c ≠ '\n' ∧ m = .char c := by
  cases m with
  | char c => exact ⟨c, by simpa [Mark.depth?] using h, rfl⟩
  | feed k => simp [Mark.depth?] at h

/-- What marks come to, line by line: all lines but the first stand at the depths of the marks. -/
theorem splitOn_render (indent : Nat) (ms : List Mark) :
    (render indent ms).splitOn '\n'
      = List.zipWith (indentLine indent) (0 :: depths ms) ((render 0 ms).splitOn '\n') := by
  induction ms with
  | nil => rfl
  | cons m ms ih =>
    obtain ⟨first, others, hlines⟩ := exists_splitOn (render 0 ms)
    -- Only the first of the lines so far changes with one more mark in front.
    rw [hlines, List.zipWith_cons_cons] at ih
    rw [render_cons, render_cons]
    cases hm : m.depth? with
    | none =>
      obtain ⟨c, hc, rfl⟩ := eq_char_of_depth?_eq_none hm
      rw [Mark.chars, Mark.chars, List.singleton_append, List.singleton_append, splitOn_char hc,
        splitOn_char hc, ih, hlines, depths_cons_none hm]
      rfl
    | some depth =>
      rw [splitOn_mark hm, splitOn_mark hm, ih, hlines, depths_cons_some hm]
      simp [indentLine]

theorem length_splitOn_render (indent : Nat) (ms : List Mark) :
    ((render indent ms).splitOn '\n').length = (depths ms).length + 1 := by
  induction ms with
  | nil => rfl
  | cons m ms ih =>
    rw [render_cons]
    cases hm : m.depth? with
    | none =>
      obtain ⟨c, hc, rfl⟩ := eq_char_of_depth?_eq_none hm
      rw [Mark.chars, List.singleton_append, splitOn_char hc, List.length_modifyHead, ih,
        depths_cons_none hm]
    | some depth =>
      rw [splitOn_mark hm, List.length_cons, List.length_modifyHead, ih, depths_cons_some hm,
        List.length_cons]

/-! ## Texts -/

theorem feed_renderLines_eq (ls : List Line) :
    '\n' :: (renderLines indent ls).toList = render indent (marksOf ls) := by
  cases ls with
  | nil => rfl
  | cons l ls => exact feed_renderLines l ls

theorem linesOf_renderLines (ls : List Line) :
    [] :: linesOf (renderLines indent ls) = (render indent (marksOf ls)).splitOn '\n' := by
  rw [← feed_renderLines_eq, splitOn_feed]
  rfl

theorem length_depths_marksOf (ls : List Line) :
    (depths (marksOf ls)).length = (linesOf (renderLines 0 ls)).length := by
  have h := length_splitOn_render 0 (marksOf ls)
  rw [← linesOf_renderLines, List.length_cons] at h
  exact (Nat.succ.inj h).symm

/-- Every line of a text stands at its depth, whatever the width of the steps. -/
theorem renderLines_eq (indent : Nat) (ls : List Line) :
    renderLines indent ls = indentLines indent (depths (marksOf ls)) (renderLines 0 ls) := by
  have h := splitOn_render indent (marksOf ls)
  rw [← linesOf_renderLines, ← linesOf_renderLines, List.zipWith_cons_cons] at h
  rw [indentLines, ← (List.cons.inj h).2, linesOf, List.intercalate_splitOn, String.ofList_toList]

theorem verbatim_marksOf {ws : List String} {ls : List Line} (h : Verbatim ws (marksBelow 0 ls)) :
    Verbatim ws (marksOf ls) := by
  cases ls with
  | nil => exact h.before [.feed 0]
  | cons l ls => exact h

/-! ## Trees -/

/-- **The layout is uniform in the width of the steps**, and the plain printer comes to the same: a
tree is refused with every width or with none, and its texts differ in nothing but the spaces in
front of their lines. The literals of the tree stand in them in one piece. -/
theorem generate_uniform (n : Node) :
    (∀ indent : Nat, write n indent = generate n indent) ∧
    ((∃ error, ∀ indent : Nat, generate n indent = .error error) ∨
      ∃ text marks, generate n 0 = .ok text ∧ (depths marks).length = (linesOf text).length ∧
        Verbatim (literals n) marks ∧
        ∀ indent : Nat, generate n indent = .ok (indentLines indent (depths marks) text) ∧
          '\n' :: (indentLines indent (depths marks) text).toList = render indent marks) := by
  refine ⟨write_eq_generate n, ?_⟩
  have hsame := layout_same n 0
  generalize write n 0 = y at hsame
  cases hlayout : layout n with
  | error error =>
    refine .inl ⟨error, fun indent => ?_⟩
    rw [generate, hlayout]
    rfl
  | ok ls =>
    have hgenerate (indent : Nat) : generate n indent = .ok (renderLines indent ls) := by
      rw [generate, hlayout]
      rfl
    rw [hlayout] at hsame
    obtain _ | ⟨-, hliterals⟩ := hsame
    refine .inr ⟨renderLines 0 ls, marksOf ls, hgenerate 0, length_depths_marksOf ls,
      verbatim_marksOf hliterals, fun indent => ?_⟩
    rw [← renderLines_eq]
    exact ⟨hgenerate indent, feed_renderLines_eq ls⟩

end LoopBound.Layout
