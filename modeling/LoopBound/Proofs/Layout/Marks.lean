import Mathlib.Data.List.Basic

/-!
# Texts before they are indented

A printed text is a sequence of marks: characters, and line feeds that the printer puts there, each
with the number of steps that the next line stands in. Only these are followed by spaces. A line
feed that is a character, as in a literal, is not.
-/

namespace LoopBound.Layout

/-- A character, or a line feed of the printer and the steps in front of the next line. -/
inductive Mark where
  | char (c : Char)
  | feed (depth : Nat)
  deriving DecidableEq

namespace Mark

/-- The characters of a mark, `indent` spaces for every step. -/
def chars (indent : Nat) : Mark → List Char
  | char c => [c]
  | feed depth => '\n' :: List.replicate (indent * depth) ' '

/-- The depth of the line that begins behind the mark. -/
def depth? : Mark → Option Nat
  | char c => if c = '\n' then some 0 else none
  | feed depth => some depth

end Mark

/-- The characters of marks. -/
def render (indent : Nat) (ms : List Mark) : List Char :=
  ms.flatMap (Mark.chars indent)

/-- Characters as marks. -/
def plain (cs : List Char) : List Mark :=
  cs.map .char

theorem render_cons {indent : Nat} (m : Mark) (ms : List Mark) :
    render indent (m :: ms) = m.chars indent ++ render indent ms :=
  List.flatMap_cons

theorem render_append {indent : Nat} (ms ns : List Mark) :
    render indent (ms ++ ns) = render indent ms ++ render indent ns :=
  List.flatMap_append

theorem render_plain {indent : Nat} (cs : List Char) : render indent (plain cs) = cs := by
  rw [render, plain, List.flatMap_map]
  exact List.flatMap_singleton' cs

theorem plain_append (cs ds : List Char) : plain (cs ++ ds) = plain cs ++ plain ds :=
  List.map_append

/-! ## Texts within a text -/

/-- The texts stand one behind the other among the marks, each in one piece and with nothing but its
own characters in it. -/
inductive Verbatim : List String → List Mark → Prop
  | nil (ms : List Mark) : Verbatim [] ms
  | cons (before : List Mark) {w : String} {ws : List String} {ms : List Mark} :
      Verbatim ws ms → Verbatim (w :: ws) (before ++ (plain w.toList ++ ms))

namespace Verbatim

variable {ws vs : List String} {ms ns : List Mark}

theorem text (w : String) : Verbatim [w] (plain w.toList) := by
  have h := cons [] (w := w) (nil [])
  rwa [List.append_nil] at h

theorem behind (before : List Mark) (h : Verbatim ws ms) : Verbatim ws (before ++ ms) := by
  cases h with
  | nil => exact nil _
  | cons before' h =>
    rw [← List.append_assoc]
    exact cons _ h

theorem append (h : Verbatim ws ms) (h' : Verbatim vs ns) : Verbatim (ws ++ vs) (ms ++ ns) := by
  induction h with
  | nil ms => exact h'.behind ms
  | cons before _ ih =>
    rw [List.append_assoc, List.append_assoc]
    exact cons before ih

theorem before (h : Verbatim ws ms) (ns : List Mark) : Verbatim ws (ms ++ ns) := by
  have h' := h.append (nil ns)
  rwa [List.append_nil] at h'

end Verbatim

end LoopBound.Layout
