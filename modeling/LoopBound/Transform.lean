import LoopBound.Reading.Program
import LoopBound.Layout.Printer
import LoopBound.Guard.Inject
import LoopBound.Settings.Config
import LoopBound.Text.Lowercase

/-!
# Guarding a text

Reads a program, guards its loops and prints it. Where the program has no loop of an enabled kind
the text is left exactly as it is. `transform` never fails: a text that is no program comes back
unchanged with the error beside it.
-/

namespace LoopBound

open LoopBound.Syntax LoopBound.Reading LoopBound.Guard LoopBound.Layout
open LoopBound.Diagnostic (Report)

/-- Why a text was not guarded. -/
inductive Failure where
  | reading (e : ReadError)
  | printing (e : PrintError)
  deriving DecidableEq, Repr

/-- The report of a failure in a file. -/
def Failure.report (file : String) : Failure → Report
  | reading e => e.report file
  | printing e => e.report

/-- A program and the loops that were met in it. -/
structure Survey where
  tree : Node
  seen : List Sighting
  context : Context

/-- The loops to be guarded. -/
def Survey.loops (s : Survey) : List FoundLoop :=
  s.seen.filterMap Sighting.loop?

/-- Reads a program and searches it for loops. -/
def examine (code : String) (kinds : List LoopKind) : Except ReadError Survey := do
  let tree ← parse code
  let (seen, context) := survey tree kinds {}
  return ⟨tree, seen, context⟩

/-- A guarded text and the names of its guards. -/
structure Guarded where
  code : String
  guards : List String
  deriving DecidableEq, Repr

/-- Guards the loops of a program that has been searched. -/
def guardSurvey (code : String) (settings : Settings) (s : Survey) : Except PrintError Guarded :=
  if s.loops.isEmpty then .ok ⟨code, []⟩
  else do
    let tree := inject s.tree s.loops settings.max (some s.context.stem)
    return ⟨← generate tree settings.indent, s.context.allocated⟩

/-- Guards the loops of a text. -/
def insertGuards (code : String) (settings : Settings) : Except Failure Guarded :=
  match examine code settings.loops with
  | .error e => .error (.reading e)
  | .ok s =>
    match guardSurvey code settings s with
    | .error e => .error (.printing e)
    | .ok g => .ok g

/-- What came of guarding a text. -/
structure Transformed where
  code : String
  guards : List String
  failure : Option Failure

/-- The text was read, and guarded where it has loops. -/
def Transformed.ok (t : Transformed) : Bool :=
  t.failure.isNone

/-- Guards the loops of a text, or leaves the text as it is. -/
def transform (code : String) (settings : Settings) : Transformed :=
  match insertGuards code settings with
  | .ok g => ⟨g.code, g.guards, none⟩
  | .error e => ⟨code, [], some e⟩

/-! ## Snippets -/

/-- A piece of code in some language. -/
structure Snippet where
  code : String
  lang : String := "javascript"
  test : Bool := false
  deriving DecidableEq, Repr

/-- The names of the languages whose code is guarded. -/
def supportedLanguages : List String :=
  ["cjs", "javascript", "js", "mjs", "ts", "typescript"]

/-- Guards a snippet if its language is supported. -/
def lens (s : Snippet) (settings : Settings) : Snippet :=
  if supportedLanguages.contains (Text.lowercase s.lang) then
    { s with code := (transform s.code settings).code }
  else s

/-- The version of the program. -/
def version : String :=
  "0.1.0"

end LoopBound
