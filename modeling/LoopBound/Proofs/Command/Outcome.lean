import LoopBound.Command.Run
import LoopBound.Proofs.Command.Arguments
import LoopBound.Proofs.Reading.Parse
import LoopBound.Proofs.Transform

/-!
# Output on success only

A run ends with an exit code, what it prints, and perhaps a file. Here all ends of a run are told
apart: which exit code there is for which command line and which source, and what has been written
then. Each command makes its errors in another order, but all that is ever written goes through
`Job.finished` or is a listing, and every other end leaves the standard output and the file alone.
-/

namespace LoopBound.Command

open LoopBound.Diagnostic LoopBound.Guard LoopBound.Layout LoopBound.Reading LoopBound.Syntax
open LoopBound.Text

/-! ## What is asked for and what is written -/

/-- A run on a command line, where `read` gives the bytes of a source, or none if there is no such
file. -/
def run (words : List String) (read : Source → Option (List UInt8)) : Outcome :=
  match prepare words with
  | .error o => o
  | .ok job => job.execute (read job.source)

/-- How wide printing makes a step of indentation, unless it is given nothing for it. -/
def Choices.width? (c : Choices) : Option Int :=
  match c.indent with
  | none => some 2
  | some (.value n) => some n
  | some .nothing => none

/-- Where code is written. -/
inductive Destination where
  | standardOutput
  | file (path : String)
  deriving DecidableEq, Repr

/-- Where a command line has code written, unless it is given nothing for it. -/
def Choices.destination? (c : Choices) : Option Destination :=
  match c.output with
  | none => some .standardOutput
  | some (.value path) => some (if path = "-" then .standardOutput else .file (normalPath path))
  | some .nothing => none

/-- The text that is written for a piece of code: a line feed is added, unless there is nothing to
end or the code ends in one. -/
def ended (code : String) : String :=
  if code = "" ∨ code.toList.getLast? = some '\n' then code else code ++ "\n"

/-- A run has written the text to its destination and nowhere else. -/
def Outcome.Wrote (o : Outcome) (text : String) : Destination → Prop
  | .standardOutput => o.stdout = text ∧ o.written = none
  | .file path => o.stdout = "" ∧ o.written = some (path, text)

/-- A run has written nothing. -/
def Outcome.WroteNothing (o : Outcome) : Prop :=
  o.stdout = "" ∧ o.written = none

/-- A run that does not succeed has written nothing. -/
def Outcome.Quiet (o : Outcome) : Prop :=
  o.exit ≠ 0 → o.WroteNothing

variable {j : Job} {code : String} {entries : List Entry}

/-- Listing fails exactly if the source cannot be read. -/
theorem loops_cases (j : Job) (code : String) :
    ((∃ e, parse code = .error e) ∧ ∃ entries r, j.loops code = j.failed entries r)
      ∨ ((∃ root, parse code = .ok root) ∧ (j.loops code).exit = 0) := by
  cases hparse : parse code with
  | error e =>
    refine .inl ⟨⟨e, rfl⟩, ?_⟩
    simp only [Job.loops, examine, hparse]
    exact ⟨_, _, rfl⟩
  | ok root =>
    refine .inr ⟨⟨root, rfl⟩, ?_⟩
    simp only [Job.loops, examine, hparse]
    rfl

section

variable {words : List String} {read : Source → Option (List UInt8)} {a : Arguments}

/-- How a run ends whose command line is read as `a`, with these settings, on a source with the text
`code`. -/
structure Ends (a : Arguments) (settings : Settings) (code : String) (o : Outcome) : Prop where
  /-- Guarding writes what `transform` makes of the text, be it a program or not. -/
  guard : a.subcommand = .guard → a.choices.strict = false →
    ∀ d, a.choices.destination? = some d →
      o.exit = 0 ∧ o.Wrote (ended (transform code settings).code) d
  /-- Strict guarding does so for programs only. -/
  strict : a.subcommand = .guard → a.choices.strict = true →
    (∀ root, parse code = .ok root → ∀ d, a.choices.destination? = some d →
        o.exit = 0 ∧ o.Wrote (ended (transform code settings).code) d)
      ∧ ∀ e, parse code = .error e → o.exit = 1
  /-- Listing fails for what is no program. -/
  loops : a.subcommand = .loops →
    (o.exit = 1 ↔ ∃ e, parse code = .error e) ∧ (o.exit = 0 ↔ ∃ root, parse code = .ok root)
  /-- So does printing, which writes any program again. Nothing in place of a width is no valid
  setting; it is met once the program has been read. -/
  parse : a.subcommand = .parse →
    (o.exit = 1 ↔ ∃ e, parse code = .error e)
      ∧ ∀ root, parse code = .ok root →
        (a.choices.width? = none → o.exit = 2)
        ∧ ∀ width, a.choices.width? = some width → ∀ d, a.choices.destination? = some d →
          ∃ printed, generate root width = .ok printed
            ∧ o.exit = 0 ∧ o.Wrote (ended printed) d

end

end LoopBound.Command
