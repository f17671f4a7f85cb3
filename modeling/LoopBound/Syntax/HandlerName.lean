import LoopBound.Text.Lowercase

/-!
# Names of handlers

A visitor handles the nodes of a type in a function named after the type: its words in lower case,
each begun by a capital letter, with underscores between them.
-/

namespace LoopBound.Syntax

/-- An ASCII capital letter. -/
def isCapital (c : Char) : Bool :=
  'A' ≤ c && c ≤ 'Z'

/-- Puts an underscore in front of every capital letter. -/
def underscored : List Char → List Char
  | [] => []
  | c :: cs => if isCapital c then '_' :: c :: underscored cs else c :: underscored cs

/-- The name of the function that handles a type of nodes. -/
def handlerName (typeName : String) : String :=
  let words :=
    match typeName.toList with
    | [] => []
    | c :: cs => c :: underscored cs
  "visit_" ++ Text.lowercase (String.ofList words)

end LoopBound.Syntax
