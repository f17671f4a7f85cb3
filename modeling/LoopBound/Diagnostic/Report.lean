import LoopBound.Diagnostic.Code
import LoopBound.Text.Escaped
import LoopBound.Text.Position

/-!
# Reports

A report is an error as it is shown: a code, a message, a place in a file and a hint. It is written
on one line, `file:line:column: error[CODE]: message (hint: …)`, or as an object of named fields.
-/

namespace LoopBound.Diagnostic

open LoopBound.Text (Position escaped)

/-- A place in a file. Line 0 is unknown; numbers below it are not written. -/
structure Span where
  file : String := ""
  line : Int := 0
  column : Int := 0
  deriving DecidableEq, Repr, Inhabited

namespace Span

/-- A position in a file. -/
def ofPosition (p : Position) (file : String) : Span :=
  ⟨file, p.line, p.column⟩

/-- The place of an offset in a text. -/
def ofOffset (text : String) (offset : Int) (file : String) : Span :=
  ofPosition (Position.ofOffset text.toList offset) file

/-- File, line and column as far as they are known. -/
def render (s : Span) : String :=
  if s.file.isEmpty && s.line == 0 then "<unknown location>"
  else
    let file := if s.file.isEmpty then [] else [s.file]
    let line := if s.line > 0 then [toString s.line] else []
    let column := if s.line > 0 && s.column > 0 then [toString s.column] else []
    ":".intercalate (file ++ line ++ column)

end Span

/-- What a report is about, with what only such reports have. -/
inductive Subject where
  | general
  | source (got : String)
  | printing
  | settings (key : String)
  deriving DecidableEq, Repr, Inhabited

/-- The code of reports that name none. -/
def Subject.defaultCode : Subject → Code
  | .general => .internalError
  | .source _ => .unexpectedInput
  | .printing => .unsupportedNode
  | .settings _ => .invalidOption

/-- An error as it is shown. -/
structure Report where
  subject : Subject
  code : Code
  message : String
  span : Span
  hint : String
  deriving Repr, Inhabited

namespace Report

/-- A value that the caller gave is at fault. -/
def isValueError (r : Report) : Bool :=
  match r.subject with
  | .settings _ => true
  | _ => false

/-- The report on one line. -/
def render (r : Report) : String :=
  let place := if r.span.line > 0 || !r.span.file.isEmpty then r.span.render ++ ": " else ""
  let hint := if r.hint.isEmpty then "" else " (hint: " ++ r.hint ++ ")"
  place ++ "error[" ++ r.code.render ++ "]: " ++ r.message ++ hint

/-- The report as an object of named fields. -/
def renderObject (r : Report) : String :=
  let field (name value : String) := escaped name ++ ": " ++ value
  "\x7b" ++ ", ".intercalate [
    field "code" (escaped r.code.render), field "phase" (escaped r.code.phase.word),
    field "message" (escaped r.message), field "file" (escaped r.span.file),
    field "line" (toString r.span.line), field "column" (toString r.span.column),
    field "hint" (escaped r.hint)] ++ "\x7d"

end Report

end LoopBound.Diagnostic
