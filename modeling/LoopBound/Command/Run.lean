import LoopBound.Command.Arguments
import LoopBound.Command.Listing
import LoopBound.Command.Log
import LoopBound.Command.Path
import LoopBound.Text.Utf8
import LoopBound.Transform

/-!
# Runs

A run begins with the command line and the settings, which may already end it. What is left is a job
that needs the bytes of its source. A job gives an outcome: an exit code, what is written to the
standard streams, and perhaps a file. Reading and writing files is left to the caller.

Guarding does not fail on a source that cannot be read as a program, unless it is asked to be
strict.
-/

namespace LoopBound.Command

open LoopBound.Diagnostic LoopBound.Guard LoopBound.Layout LoopBound.Reading LoopBound.Syntax
open LoopBound.Text

/-- What a run comes to. -/
structure Outcome where
  exit : Nat
  stdout : String := ""
  stderr : String := ""
  /-- The path and the text of a file to be written. -/
  written : Option (String × String) := none
  deriving DecidableEq, Repr

/-- The exit code where a source could not be read or printed. -/
def exitError : Nat :=
  1

/-- The exit code where the command line, the settings or a file are at fault. -/
def exitUnusable : Nat :=
  2

/-- What stands for the description of the command line. -/
def helpText : String :=
  "<help>"

/-- The outcome of a command line that asks for no work. -/
def Stop.outcome : Stop → Outcome
  | help => { exit := 0, stdout := helpText }
  | version => { exit := 0, stdout := Scope.main.name ++ " " ++ LoopBound.version ++ "\n" }
  | noSubcommand => { exit := exitUnusable, stderr := helpText }
  | refused scope e =>
    { exit := exitUnusable, stderr := scope.name ++ ": error: " ++ e.message }

/-- Where nothing is given and no setting refuses it. -/
inductive Gap where
  | loops | output | indent
  deriving DecidableEq, Repr

/-- What the log says of a gap. -/
def Gap.message (g : Gap) : String :=
  "nothing is given for " ++
    match g with
    | loops => "--loops"
    | output => "--output"
    | indent => "--indent"

/-- An error of the program itself, which ends the run. -/
def unusable (verbosity : Nat) (message : String) : Outcome :=
  { exit := exitUnusable, stderr := renderLog verbosity [⟨.error, .program, message⟩] }

/-- Where a source is read from. -/
inductive Source where
  | standardInput
  | file (path : String)
  deriving DecidableEq, Repr

/-- The source of this name. -/
def Source.named (name : String) : Source :=
  if name == "-" then .standardInput else .file (normalPath name)

/-- The name of a source in messages about what it holds. -/
def displayName (name : String) : String :=
  if name == "-" then "<stdin>" else name

/-- A run that needs the bytes of its source. -/
structure Job where
  arguments : Arguments
  settings : Settings

namespace Job

/-- Where the source is read from. -/
def source (j : Job) : Source :=
  .named j.arguments.input

/-- The name of the source in reports. -/
def file (j : Job) : String :=
  displayName j.arguments.input

/-- The log at the verbosity that was asked for. -/
def log (j : Job) (entries : List Entry) : String :=
  renderLog j.arguments.choices.verbosity entries

end Job

/-! ## Beginning -/

/-- The kinds in a list with commas between them. -/
def kindNames (s : String) : List String :=
  ((s.splitOn ",").map trim).filter (· != "")

/-- A setting that a switch asks for. Nothing is an empty list, which is no number. -/
def overrideOf {α : Type} (f : α → Settings.Value) : Option (Given α) → Settings.Value
  | none => .null
  | some (.value a) => f a
  | some .nothing => .list []

/-- The overrides that the switches ask for. -/
def Choices.overrides (c : Choices) : Settings.Mapping :=
  [("max", overrideOf .whole c.max),
    ("loops", overrideOf (fun s => .list ((kindNames s).map .text)) c.loops),
    ("indent", overrideOf .whole c.indent)]

/-- The settings of a run. Printing alone needs none. -/
def Arguments.settings (a : Arguments) : Except Settings.Problem Settings :=
  match a.subcommand with
  | .parse => .ok .usual
  | _ => Settings.ofMapping a.choices.overrides

/-- Reads the command line and checks the settings. -/
def prepare (words : List String) : Except Outcome Job :=
  match Arguments.ofWords words with
  | .error stop => .error stop.outcome
  | .ok a =>
    if a.choices.loops = some .nothing then .error (unusable a.choices.verbosity Gap.loops.message)
    else
      match a.settings with
      | .error e =>
        .error (unusable a.choices.verbosity ("invalid configuration: " ++ (e.report).render))
      | .ok settings => .ok ⟨a, settings⟩

/-! ## What is logged -/

/-- The line about a program that was read. -/
def readEntry (tree : Node) : Entry :=
  let statements :=
    match tree with
    | .program body _ => body.length
    | _ => 0
  ⟨.debug, .reading, "Parsed " ++ toString statements ++ " top-level statement(s)"⟩

/-- The line about what a search met. -/
def sightingEntry : Sighting → Entry
  | .found l => ⟨.debug, .finding,
      "Found " ++ l.kind.name ++ " loop #" ++ toString l.order ++ " at " ++ l.position.render⟩
  | .skipped kind p => ⟨.debug, .finding,
      "Skipping " ++ kind.name ++ " loop at " ++ p.render ++ " (kind not enabled)"⟩

/-- The lines about a search. -/
def searchEntries (tree : Node) (seen : List Sighting) : List Entry :=
  let highest := highestNumber usualStem tree
  (if highest = 0 then []
    else [⟨.debug, .finding, "Existing guards up to " ++ guardName usualStem highest⟩]) ++
    seen.map sightingEntry

/-- The line about a loop that was guarded. -/
def guardedEntry (l : FoundLoop) : Entry :=
  ⟨.debug, .guarding,
    "Guarded " ++ l.kind.name ++ " loop at " ++ l.position.render ++ " as " ++ l.guard⟩

/-- The line about a text that was printed. -/
def printedEntry (code : String) : Entry :=
  let count := if code.isEmpty then 0 else code.toList.count '\n' + 1
  ⟨.debug, .printing, "Generated " ++ toString count ++ " line(s)"⟩

/-- The lines about guarding a text, and what came of it. -/
def guardLogged (code : String) (settings : Settings) : List Entry × Except Failure Guarded :=
  match examine code settings.loops with
  | .error e => ([], .error (.reading e))
  | .ok s =>
    let entries := readEntry s.tree :: searchEntries s.tree s.seen ++ s.loops.map guardedEntry
    match guardSurvey code settings s with
    | .error e => (entries, .error (.printing e))
    | .ok g => (if s.loops.isEmpty then entries else entries ++ [printedEntry g.code], .ok g)

/-! ## Work -/

namespace Job

/-- An error of the source. -/
def failed (j : Job) (entries : List Entry) (r : Report) : Outcome :=
  let line :=
    match j.arguments.choices.errorFormat with
    | .line => r.render
    | .object => r.renderObject
  { exit := exitError, stderr := j.log entries ++ line ++ "\n" }

/-- Nothing is given where something is needed. -/
def stuck (j : Job) (entries : List Entry) (g : Gap) : Outcome :=
  { exit := exitUnusable, stderr := j.log (entries ++ [⟨.error, .program, g.message⟩]) }

/-- A text to be written, with a line feed at its end. -/
def finished (j : Job) (entries : List Entry) (code : String) : Outcome :=
  let text := if code.isEmpty || code.toList.getLast? == some '\n' then code else code ++ "\n"
  let stderr := j.log entries
  match j.arguments.choices.output with
  | none => { exit := 0, stdout := text, stderr }
  | some .nothing => j.stuck entries .output
  | some (.value path) =>
    if path == "-" then { exit := 0, stdout := text, stderr }
    else { exit := 0, stderr, written := some (normalPath path, text) }

/-- Guards the loops of the source. -/
def guard (j : Job) (code : String) : Outcome :=
  let (entries, result) := guardLogged code j.settings
  let counted (guards : List String) : Entry :=
    ⟨.info, .program, j.file ++ ": " ++ toString guards.length ++ " guard(s) inserted"⟩
  match result, j.arguments.choices.strict with
  | .ok g, true => j.finished entries g.code
  | .error e, true => j.failed entries (e.report j.file)
  | .ok g, false =>
    let inserted : Entry := ⟨.debug, .transforming,
      "Inserted " ++ toString g.guards.length ++ " loop guard(s)"⟩
    j.finished (entries ++ [inserted, counted g.guards]) g.code
  | .error e, false =>
    let warning : Entry := ⟨.warning, .transforming,
      "Loop guard lens failed: " ++ (e.report j.file).render⟩
    j.finished (entries ++ [warning, counted []]) code

/-- Lists the loops of the source. -/
def loops (j : Job) (code : String) : Outcome :=
  match examine code j.settings.loops with
  | .error e => j.failed [] (e.report j.file)
  | .ok s =>
    { exit := 0
      stderr := j.log (readEntry s.tree :: searchEntries s.tree s.seen)
      stdout :=
        match j.arguments.choices.format with
        | .text => table j.file s.loops
        | .object => objects s.loops }

/-- Prints the source again, two blanks to a step of indentation unless another width is given. -/
def print (j : Job) (code : String) : Outcome :=
  let printed (tree : Node) (indent : Int) : Outcome :=
    match generate tree indent with
    | .error e => j.failed [readEntry tree] e.report
    | .ok code => j.finished [readEntry tree, printedEntry code] code
  match parse code with
  | .error e => j.failed [] (e.report j.file)
  | .ok tree =>
    match j.arguments.choices.indent with
    | none => printed tree 2
    | some (.value n) => printed tree n
    | some .nothing => j.stuck [readEntry tree] .indent

/-- Does the work on a text. -/
def work (j : Job) (code : String) : Outcome :=
  match j.arguments.subcommand with
  | .guard => j.guard code
  | .loops => j.loops code
  | .parse => j.print code

/-- Does the work on the bytes of the source; without any there is no such file. -/
def execute (j : Job) (bytes? : Option (List UInt8)) : Outcome :=
  let refuse := unusable j.arguments.choices.verbosity
  let path := normalPath j.arguments.input
  match bytes? with
  | none => refuse ("source file not found: " ++ path)
  | some bytes =>
    match decodeUtf8 bytes with
    | .error e => refuse ("cannot read " ++ path ++ ": " ++ e.message)
    | .ok cs => j.work (String.ofList (unifyLineEnds cs))

end Job

end LoopBound.Command
