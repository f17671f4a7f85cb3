/-!
# Paths

Paths are shown, and looked up, without empty parts and parts that are a single dot.
-/

namespace LoopBound.Command

/-- The parts of a path that mean something. -/
def pathParts (path : String) : List String :=
  (path.splitOn "/").filter fun part => part != "" && part != "."

/-- Where a path begins. Two slashes are a beginning of their own, three are the same as one. -/
def pathStart (path : String) : String :=
  match path.toList with
  | '/' :: '/' :: '/' :: _ => "/"
  | '/' :: '/' :: _ => "//"
  | '/' :: _ => "/"
  | _ => ""

/-- The path in its short form; the path of the current directory is a dot. -/
def normalPath (path : String) : String :=
  let shown := pathStart path ++ "/".intercalate (pathParts path)
  if shown.isEmpty then "." else shown

end LoopBound.Command
