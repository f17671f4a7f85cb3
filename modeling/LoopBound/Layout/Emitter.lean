import LoopBound.Text.Blank

/-!
# A buffer of lines

Lines are written one after another, each indented when it is written. A label waits for the next
line; text may be added to the last line. A level below zero indents like zero.
-/

namespace LoopBound.Layout

/-- Lines written so far, and what the next line begins with. -/
structure Emitter where
  step : String := "  "
  level : Int := 0
  lines : List String := []
  waiting : String := ""
  deriving Repr, DecidableEq, Inhabited

namespace Emitter

/-- What stands in front of a line at a level. -/
def padAt (e : Emitter) (level : Int) : String :=
  String.join (List.replicate level.toNat e.step)

/-- What stands in front of a line now. -/
def pad (e : Emitter) : String :=
  e.padAt e.level

/-- Writes a line. -/
def emit (e : Emitter) (code : String) : Emitter :=
  { e with lines := e.lines ++ [e.pad ++ e.waiting ++ code], waiting := "" }

/-- Adds text to the last line; without one, the text begins a line of its own. -/
def extendLast (e : Emitter) (text : String) : Emitter :=
  match e.lines.getLast? with
  | none => e.emit (Text.trimStart text)
  | some last => { e with lines := e.lines.dropLast ++ [last ++ text] }

/-- Puts text in front of the next line. -/
def label (e : Emitter) (text : String) : Emitter :=
  { e with waiting := e.waiting ++ text }

/-- One level further in. -/
def indent (e : Emitter) : Emitter :=
  { e with level := e.level + 1 }

/-- One level further out. -/
def dedent (e : Emitter) : Emitter :=
  { e with level := e.level - 1 }

/-- All lines. -/
def value (e : Emitter) : String :=
  "\n".intercalate e.lines

end Emitter

end LoopBound.Layout
