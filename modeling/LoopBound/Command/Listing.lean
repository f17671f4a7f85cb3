import LoopBound.Guard.Locate
import LoopBound.Text.Escaped

/-!
# Listing loops

The loops of a file as a table, or as a list of objects with named fields.
-/

namespace LoopBound.Command

open LoopBound.Guard LoopBound.Text

/-- Spaces in front of a text that is narrower than `width`. -/
def padStart (width : Nat) (s : String) : String :=
  String.ofList (List.replicate (width - s.length) ' ') ++ s

/-- Spaces behind a text that is narrower than `width`. -/
def padEnd (width : Nat) (s : String) : String :=
  s ++ String.ofList (List.replicate (width - s.length) ' ')

/-- A row of the table. -/
def tableRow (file : String) (l : FoundLoop) : String :=
  padStart 3 (toString l.order) ++ "  " ++ padEnd 12 l.kind.name ++ "  " ++ padEnd 14 l.guard ++
    "  " ++ file ++ ":" ++ l.position.render ++ "\n"

/-- The table, with the number of loops below it. -/
def table (file : String) (loops : List FoundLoop) : String :=
  "".intercalate (loops.map (tableRow file)) ++
    "\n--- " ++ toString loops.length ++ " loop(s) ---\n"

/-- A loop as an object. -/
def objectRow (l : FoundLoop) : String :=
  let field (name value : String) := "    " ++ escaped name ++ ": " ++ value
  "  \x7b\n" ++ ",\n".intercalate [
    field "order" (toString l.order), field "kind" (escaped l.kind.name),
    field "guard" (escaped l.guard), field "line" (toString l.position.line),
    field "column" (toString l.position.column)] ++ "\n  \x7d"

/-- The loops as a list of objects. -/
def objects (loops : List FoundLoop) : String :=
  if loops.isEmpty then "[]\n" else "[\n" ++ ",\n".intercalate (loops.map objectRow) ++ "\n]\n"

end LoopBound.Command
