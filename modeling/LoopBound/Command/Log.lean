/-!
# The log

Lines about the course of a run. Warnings and errors are always shown, the rest by request.
-/

namespace LoopBound.Command

/-- How much a line matters. -/
inductive Level where
  | debug | info | warning | error
  deriving DecidableEq, Repr

/-- The word for a level, five characters wide. -/
def Level.word : Level → String
  | debug => "DEBUG"
  | info => "INFO "
  | warning => "WARNI"
  | error => "ERROR"

/-- A level is shown at this verbosity. -/
def Level.isShown (verbosity : Nat) : Level → Bool
  | debug => 2 ≤ verbosity
  | info => 1 ≤ verbosity
  | _ => true

/-- What a line is about. -/
inductive Area where
  | program | reading | finding | guarding | printing | transforming
  deriving DecidableEq, Repr

/-- The name of an area. -/
def Area.name : Area → String
  | program => "loopguard"
  | reading => "loopguard.parser"
  | finding => "loopguard.locator"
  | guarding => "loopguard.injector"
  | printing => "loopguard.codegen"
  | transforming => "loopguard.lens"

/-- A line of the log. -/
structure Entry where
  level : Level
  area : Area
  message : String
  deriving DecidableEq, Repr

/-- The written line. -/
def Entry.render (e : Entry) : String :=
  "[" ++ e.level.word ++ "] " ++ e.area.name ++ ": " ++ e.message ++ "\n"

/-- The lines that are shown at this verbosity. -/
def renderLog (verbosity : Nat) (entries : List Entry) : String :=
  "".intercalate ((entries.filter fun e => e.level.isShown verbosity).map (·.render))

end LoopBound.Command
