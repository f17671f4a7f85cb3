import LoopBound.Proofs.Layout.Rendering
import LoopBound.Proofs.Layout.Writer

/-!
# Lines in the buffer

A buffer that stands `depth` steps in holds, for the lines written into it, their characters at that
depth (`Put`). Every way to write keeps this: a line of its own, text behind the last line, a label,
lines some steps further in. So does text that is put together from what another buffer holds, as
the bodies of functions and classes are.
-/

namespace LoopBound.Layout

variable {indent depth : Nat}

/-! ## Lines below lines -/

theorem extendFirst_append (w : String) {ls : List Line} (h : ls ≠ []) (ms : List Line) :
    extendFirst w (ls ++ ms) = extendFirst w ls ++ ms := by
  cases ls with
  | nil => exact absurd rfl h
  | cons l ls => rfl

@[simp]
theorem extendFirst_empty (ls : List Line) : extendFirst "" ls = ls := by
  cases ls with
  | nil => rfl
  | cons l ls => rw [extendFirst, String.empty_append]

theorem extendFirst_extendLast (w s : String) (ls : List Line) :
    extendFirst w (extendLast s ls) = extendLast s (extendFirst w ls) := by
  match ls with
  | [] => rfl
  | [l] => simp [extendFirst, extendLast, String.append_assoc]
  | l :: m :: ls => rfl

theorem extendFirst_ne_nil (s : String) {ls : List Line} (h : ls ≠ []) :
    extendFirst s ls ≠ [] := by
  cases ls with
  | nil => exact absurd rfl h
  | cons l ls => exact List.cons_ne_nil _ _

theorem extendLast_ne_nil (s : String) {ls : List Line} (h : ls ≠ []) : extendLast s ls ≠ [] := by
  match ls with
  | [] => exact absurd rfl h
  | [l] => exact List.cons_ne_nil _ _
  | l :: m :: ls => exact List.cons_ne_nil _ _

namespace Lines

/-- The lines that follow a label are the same as those behind other lines that leave it. -/
theorem lines_append (a b : Lines) : (a ++ b).lines = a.lines ++ (label a.waiting ++ b).lines := by
  obtain ⟨ls, w⟩ := b
  cases ls with
  | nil => exact (List.append_nil _).symm
  | cons l ls => rfl

theorem waiting_append (a b : Lines) : (a ++ b).waiting = (label a.waiting ++ b).waiting := by
  obtain ⟨ls, w⟩ := b
  cases ls with
  | nil => rfl
  | cons l ls => rfl

theorem lines_label_append (w : String) (b : Lines) :
    (label w ++ b).lines = extendFirst w b.lines := by
  obtain ⟨ls, v⟩ := b
  cases ls with
  | nil => rfl
  | cons l ls => rfl

theorem waiting_label_append (w : String) {b : Lines} (h : b.lines ≠ []) :
    (label w ++ b).waiting = b.waiting := by
  obtain ⟨ls, v⟩ := b
  cases ls with
  | nil => exact absurd rfl h
  | cons l ls => rfl

theorem label_append_append (w : String) (a b : Lines) :
    label w ++ (a ++ b) = label w ++ a ++ b := by
  obtain ⟨ls, u⟩ := a
  obtain ⟨ms, v⟩ := b
  cases ms with
  | nil =>
    cases ls with
    | nil => exact congrArg (Lines.mk []) String.append_assoc.symm
    | cons l ls => rfl
  | cons m ms =>
    cases ls with
    | nil => exact congrArg (fun t => (⟨⟨m.margin, t⟩ :: ms, v⟩ : Lines)) String.append_assoc.symm
    | cons l ls => rfl

theorem label_append_indented (w : String) (a : Lines) :
    label w ++ a.indented = (label w ++ a).indented := by
  obtain ⟨ls, u⟩ := a
  cases ls with
  | nil => rfl
  | cons l ls => rfl

theorem none_append (a : Lines) : none ++ a = a := by
  obtain ⟨ls, w⟩ := a
  cases ls with
  | nil => exact congrArg (Lines.mk []) String.empty_append
  | cons l ls => exact congrArg (Lines.mk · w) (extendFirst_empty (l :: ls))

end Lines

/-! ## Buffers -/

namespace Emitter

/-- Everything in the buffer, with a line feed in front of each line. -/
def chars (e : Emitter) : List Char :=
  e.lines.flatMap fun s => '\n' :: s.toList

/-- The buffer writes lines `depth` steps in, each step `indent` spaces wide. -/
structure At (indent depth : Nat) (e : Emitter) : Prop where
  step : e.step = String.ofList (List.replicate indent ' ')
  level : e.level = depth

variable {e e' : Emitter}

theorem At.toList_padAt (h : e.At indent depth) {level : Int} {k : Nat} (hk : level = k) :
    (e.padAt level).toList = List.replicate (indent * k) ' ' := by
  subst hk
  rw [padAt, h.step, String.toList_join, List.flatMap_replicate, Int.toNat_natCast,
    String.toList_ofList, List.flatten_replicate_replicate, Nat.mul_comm]

/-- What stands in front of a line, with the line feed. -/
theorem At.feed_padAt (h : e.At indent depth) {level : Int} {k : Nat} (hk : level = k) :
    '\n' :: (e.padAt level).toList = (Mark.feed k).chars indent := by
  rw [h.toList_padAt hk, Mark.chars]

theorem At.levelAt (h : e.At indent depth) (k : Nat) : e.levelAt k = (depth + k : Nat) := by
  rw [Emitter.levelAt, h.level, Int.natCast_add]

theorem At.deeper (h : e.At indent depth) : e.indent.At indent (depth + 1) :=
  ⟨h.step, by rw [Emitter.indent, h.level, Int.natCast_add]; rfl⟩

theorem At.inner (h : e.At indent depth) (k : Nat) : (e.inner k).At indent (depth + k + 1) :=
  ⟨h.step, by rw [Emitter.inner, h.levelAt, Int.natCast_add (depth + k)]; rfl⟩

theorem chars_emit (e : Emitter) (s : String) :
    (e.emit s).chars = e.chars ++ '\n' :: (e.pad ++ e.waiting ++ s).toList := by
  simp [chars, emit]

theorem lines_ne_nil_of_chars (h : e.chars ≠ []) : e.lines ≠ [] := by
  intro hl
  exact h (by rw [chars, hl]; rfl)

/-- Text behind the last line changes nothing but the lines. -/
theorem extendLast_eq (s : String) (h : e.lines ≠ []) :
    ∃ ls, e.extendLast s = { e with lines := ls } ∧
      (ls.flatMap fun t => '\n' :: t.toList) = e.chars ++ s.toList := by
  refine ⟨e.lines.dropLast ++ [e.lines.getLast h ++ s], ?_, ?_⟩
  · rw [extendLast, List.getLast?_eq_some_getLast h]
  · rw [chars]
    nth_rewrite 3 [← List.dropLast_concat_getLast h]
    simp

/-- Texts with line feeds between them, and the line feed in front. -/
theorem feed_intercalate (s : String) (ss : List String) :
    '\n' :: ("\n".intercalate (s :: ss)).toList = (s :: ss).flatMap fun t => '\n' :: t.toList := by
  induction ss generalizing s with
  | nil => simp
  | cons t ss ih =>
    rw [String.intercalate_cons_cons, String.toList_append, String.toList_append,
      List.flatMap_cons, ← ih t]
    simp

theorem feed_value (h : e.lines ≠ []) : '\n' :: e.value.toList = e.chars := by
  obtain ⟨s, ss, hlines⟩ := List.exists_cons_of_ne_nil h
  rw [value, chars, hlines, feed_intercalate]

theorem value_of_empty (h : e.chars = []) : e.value = "" := by
  have hlines : e.lines = [] := by
    by_contra hne
    obtain ⟨s, ss, hlines⟩ := List.exists_cons_of_ne_nil hne
    rw [chars, hlines] at h
    cases h
  rw [value, hlines]
  rfl

end Emitter

/-! ## Writing lines -/

/-- From `e` to `e'` the lines are written into the buffer, behind the label that waits there. The
literals `ws` stand in them. -/
structure Put (indent depth : Nat) (ws : List String) (e : Emitter) (b : Lines) (e' : Emitter) :
    Prop where
  step : e'.step = e.step
  level : e'.level = e.level
  chars : e'.chars
    = e.chars ++ render indent (marksBelow depth (.label e.waiting ++ b : Lines).lines)
  waiting : e'.waiting = (.label e.waiting ++ b : Lines).waiting
  literals : Verbatim ws (marksBelow depth (.label e.waiting ++ b : Lines).lines)

namespace Put

variable {e e₁ e₂ : Emitter} {a b : Lines} {f : Fragment} {s : String} {ws vs : List String}

theorem stands (h : Put indent depth ws e b e₁) (he : e.At indent depth) : e₁.At indent depth :=
  ⟨h.step.trans he.step, h.level.trans he.level⟩

theorem nil : Put indent depth [] e .none e where
  step := rfl
  level := rfl
  chars := (List.append_nil _).symm
  waiting := String.append_empty.symm
  literals := .nil _

theorem append (h : Put indent depth ws e a e₁) (h' : Put indent depth vs e₁ b e₂) :
    Put indent depth (ws ++ vs) e (a ++ b) e₂ where
  step := h'.step.trans h.step
  level := h'.level.trans h.level
  chars := by
    rw [h'.chars, h.chars, h.waiting, Lines.label_append_append,
      Lines.lines_append (.label e.waiting ++ a), marksBelow_append, render_append,
      List.append_assoc]
  waiting := by
    rw [h'.waiting, h.waiting, Lines.label_append_append, Lines.waiting_append (_ ++ a)]
  literals := by
    rw [Lines.label_append_append, Lines.lines_append (.label e.waiting ++ a), ← h.waiting,
      marksBelow_append]
    exact h.literals.append h'.literals

theorem label (s : String) : Put indent depth [] e (.label s) (e.label s) where
  step := rfl
  level := rfl
  chars := (List.append_nil _).symm
  waiting := rfl
  literals := .nil _

theorem marksBelow_label_line (w : String) (f : Fragment) :
    marksBelow depth (.label w ++ .line f : Lines).lines
      = .feed depth :: (plain w.toList ++ f.marks depth) := by
  have hfirst : (.label w ++ .line f : Lines).lines
      = (⟨w ++ f.head, f.tail⟩ : Fragment).lines 0 := rfl
  rw [hfirst, Fragment.marksBelow_lines, Nat.add_zero]
  simp [Fragment.marks, plain_append]

theorem emit (he : e.At indent depth) (h : f.Reads indent depth ws s) :
    Put indent depth ws e (.line f) (e.emit s) where
  step := rfl
  level := rfl
  chars := by
    rw [marksBelow_label_line, Emitter.chars_emit, render_cons, render_append, render_plain,
      ← he.feed_padAt he.level, ← h.chars]
    simp [Emitter.pad]
  waiting := rfl
  literals := by
    rw [marksBelow_label_line]
    exact (h.literals.behind _).behind [.feed depth]

/-- What is written one step further in. -/
theorem indented (h : Put indent (depth + 1) ws e.indent b e₁) :
    Put indent depth ws e b.indented e₁.dedent where
  step := h.step
  level := by
    rw [Emitter.dedent, h.level, Emitter.indent]
    exact Int.add_sub_cancel e.level 1
  chars := by
    rw [Lines.label_append_indented, Lines.indented, marksBelow_shift]
    exact h.chars
  waiting := by
    rw [Lines.label_append_indented]
    exact h.waiting
  literals := by
    rw [Lines.label_append_indented, Lines.indented, marksBelow_shift]
    exact h.literals

/-- A buffer that was empty holds the lines alone. -/
theorem chars_of_empty (h : Put indent depth ws e b e₁) (hlines : e.lines = [])
    (hwaiting : e.waiting = "") : e₁.chars = render indent (marksBelow depth b.lines) := by
  have hnone : (.label "" ++ b : Lines) = b := Lines.none_append b
  rw [h.chars, hwaiting, hnone, Emitter.chars, hlines]
  rfl

theorem literals_of_empty (h : Put indent depth ws e b e₁) (hwaiting : e.waiting = "") :
    Verbatim ws (marksBelow depth b.lines) := by
  have hnone : (.label "" ++ b : Lines) = b := Lines.none_append b
  rw [← hnone, ← hwaiting]
  exact h.literals

end Put

/-- At least one line is written. -/
structure Written (indent depth : Nat) (ws : List String) (e : Emitter) (b : Lines)
    (e' : Emitter) : Prop extends Put indent depth ws e b e' where
  ne_nil : b.lines ≠ []

namespace Written

variable {e e₁ e₂ : Emitter} {a b : Lines} {f : Fragment} {s : String} {ws vs : List String}

theorem line (he : e.At indent depth) (h : f.Reads indent depth ws s) :
    Written indent depth ws e (.line f) (e.emit s) :=
  ⟨Put.emit he h, List.cons_ne_nil _ _⟩

theorem lines_append_ne_nil (ha : a.lines ≠ []) (b : Lines) : (a ++ b).lines ≠ [] := by
  rw [Lines.lines_append]
  exact List.append_ne_nil_of_left_ne_nil ha _

theorem append (h : Written indent depth ws e a e₁) (h' : Put indent depth vs e₁ b e₂) :
    Written indent depth (ws ++ vs) e (a ++ b) e₂ :=
  ⟨h.toPut.append h', lines_append_ne_nil h.ne_nil b⟩

theorem lines_of_written (h : Written indent depth ws e b e₁) : e₁.lines ≠ [] := by
  refine Emitter.lines_ne_nil_of_chars ?_
  rw [h.chars, Lines.lines_label_append]
  obtain ⟨l, ls, hlines⟩ := List.exists_cons_of_ne_nil h.ne_nil
  rw [hlines, extendFirst]
  exact List.append_ne_nil_of_right_ne_nil _ (render_marksBelow_ne_nil _ _)

/-- A line that opens a brace, lines one step further in, and the line that closes it. -/
theorem closed (he : e.At indent depth) (h : Written indent depth ws e a e₁)
    (h' : Put indent (depth + 1) vs e₁.indent b e₂) :
    Written indent depth (ws ++ vs) e (a ++ b.indented ++ .line "\x7d")
      (e₂.dedent.emit "\x7d") := by
  have hinside := h.append h'.indented
  have hclose := hinside.append (Put.emit (hinside.stands he) (Fragment.reads_ofText "\x7d"))
  rwa [List.append_nil] at hclose

/-- Text behind what is written, on a line of its own or behind the last line. -/
theorem put (he : e.At indent depth) (h : Written indent depth ws e a e₁) (joined : Bool)
    (hf : f.Reads indent depth vs s) :
    Written indent depth (ws ++ vs) e (a.put joined f) (e₁.put joined s) := by
  cases joined with
  | false => exact h.append (Put.emit (h.stands he) hf)
  | true =>
    have hne : extendLast (" " ++ f.head) a.lines ≠ [] := extendLast_ne_nil _ h.ne_nil
    have hfirst : (.label e.waiting ++ a : Lines).lines ≠ [] := by
      rw [Lines.lines_label_append]
      exact extendFirst_ne_nil _ h.ne_nil
    have hmarks : marksBelow depth (.label e.waiting ++ a.put true f : Lines).lines
        = marksBelow depth (.label e.waiting ++ a : Lines).lines ++
          (plain " ".toList ++ f.marks depth) := by
      -- The label stands in front of the first line, the text behind the last.
      have hput : (.label e.waiting ++ a.put true f : Lines).lines
          = extendLast (" " ++ f.head) (.label e.waiting ++ a : Lines).lines ++ f.tail := by
        rw [Lines.lines_label_append, Lines.lines_label_append, ← extendFirst_extendLast]
        exact extendFirst_append e.waiting hne f.tail
      rw [hput, marksBelow_append, marksBelow_extendLast _ hfirst, String.toList_append,
        plain_append, Fragment.marks, List.append_assoc, List.append_assoc]
    obtain ⟨ls, hextend, hchars⟩ := Emitter.extendLast_eq (" " ++ s) h.lines_of_written
    change Written indent depth (ws ++ vs) e (a.put true f) (e₁.extendLast (" " ++ s))
    rw [hextend]
    refine ⟨⟨h.step, h.level, ?_, ?_, ?_⟩, List.append_ne_nil_of_left_ne_nil hne _⟩
    · change (ls.flatMap fun t => '\n' :: t.toList) = _
      rw [hchars, hmarks, h.chars, render_append, render_append, render_plain, ← hf.chars,
        String.toList_append, List.append_assoc]
    · rw [Lines.waiting_label_append _ (List.append_ne_nil_of_left_ne_nil hne f.tail)]
      exact h.waiting.trans (Lines.waiting_label_append _ h.ne_nil)
    · rw [hmarks]
      exact h.literals.append (hf.literals.behind _)

end Written

/-! ## What another buffer holds -/

theorem feed_render (l : Line) :
    '\n' :: (l.render indent).toList = render indent (l.marks 0) := by
  rw [Line.render, Line.marks, render_cons, render_plain]
  cases l.margin with
  | edge => simp [Margin.mark, Margin.depth, Mark.chars]
  | steps n => simp [Margin.mark, Margin.depth, Mark.chars]

theorem feed_renderLines (l : Line) (ls : List Line) :
    '\n' :: (renderLines indent (l :: ls)).toList = render indent (marksBelow 0 (l :: ls)) := by
  rw [renderLines, List.map_cons, Emitter.feed_intercalate, ← List.map_cons, List.flatMap_map,
    marksBelow, render, List.flatMap_assoc]
  exact congrArg (List.flatMap · (l :: ls)) (funext feed_render)

/-- The text of a buffer is that of lines with the same characters. -/
theorem value_eq {e : Emitter} {ls : List Line} (h : e.chars = render indent (marksBelow 0 ls)) :
    e.value = renderLines indent ls := by
  cases ls with
  | nil => exact Emitter.value_of_empty h
  | cons l ls =>
    have hne : e.lines ≠ [] := Emitter.lines_ne_nil_of_chars (h ▸ render_marksBelow_ne_nil l ls)
    rw [← String.toList_inj, ← List.cons_inj_right '\n', Emitter.feed_value hne, h,
      feed_renderLines]

/-- What another buffer holds, one step further in; without any lines, an empty one. -/
theorem feed_value_inner {e e' : Emitter} {b : Lines} {k : Nat}
    {ws : List String} (h : Put indent (depth + 1) ws (e.inner k) b e') :
    '\n' :: e'.value.toList = render indent (marksBelow depth
      (if b.lines.isEmpty then [⟨.edge, ""⟩] else b.indented.lines)) := by
  have hchars : e'.chars = render indent (marksBelow depth b.indented.lines) := by
    rw [Lines.indented, marksBelow_shift, h.chars_of_empty rfl rfl]
  cases hlines : b.lines with
  | nil =>
    rw [Lines.indented, hlines] at hchars
    rw [Emitter.value_of_empty hchars]
    rfl
  | cons l ls =>
    have hne : e'.lines ≠ [] := by
      refine Emitter.lines_ne_nil_of_chars ?_
      rw [hchars, Lines.indented, hlines]
      exact render_marksBelow_ne_nil _ _
    rw [Emitter.feed_value hne, hchars]
    rfl

/-- Lines in braces, within a text. -/
theorem reads_braced {e e' : Emitter} {b : Lines} {k : Nat} {ws : List String}
    (he : e.At indent depth) (h : Put indent (depth + k + 1) ws (e.inner k) b e') :
    (bracedLines b false).Reads indent (depth + k) ws (e.braced k e') where
  chars := by
    have hclose : '\n' :: (e.padAt (e.levelAt k)).toList = (Mark.feed (depth + k)).chars indent :=
      he.feed_padAt (he.levelAt k)
    rw [Emitter.braced, bracedLines, Fragment.marks]
    simp only [Bool.false_eq_true, if_false, marksBelow_append, render_append, render_plain,
      ← feed_value_inner h]
    simp [marksBelow, Line.marks, Margin.mark, render_cons, render_plain, ← hclose]
  head := by simp [bracedLines]
  literals := by
    rw [bracedLines, Fragment.marks]
    simp only [Bool.false_eq_true, if_false, marksBelow_append]
    refine Verbatim.behind _ (Verbatim.before ?_ _)
    have hliterals := h.literals_of_empty rfl
    rw [← marksBelow_shift] at hliterals
    cases hlines : b.lines with
    | nil =>
      rw [hlines] at hliterals
      exact hliterals.before _
    | cons l ls =>
      rw [Lines.indented, hlines]
      rw [hlines] at hliterals
      exact hliterals

end LoopBound.Layout
