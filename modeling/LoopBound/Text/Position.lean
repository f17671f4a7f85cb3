/-!
# Positions in a text

A position is a line and a column, both counted from 1; line 0 means that the position is unknown.
Only a line feed begins a line, and a column counts code points.

A position is found either by reading the text in front of it, or by a binary search among the
offsets at which lines begin. The search is for the case where many positions of one text are asked.
-/

namespace LoopBound.Text

/-- A line and a column; the line of an unknown position is 0. -/
structure Position where
  line : Nat := 0
  column : Nat := 0
  deriving DecidableEq, Repr, Inhabited

/-- The position reached after reading the text. -/
def Position.after (cs : List Char) : Position :=
  ⟨cs.count '\n' + 1, (cs.reverse.takeWhile (· != '\n')).length + 1⟩

/-- The position of an offset, which is first brought into the range of the text. -/
def Position.ofOffset (cs : List Char) (offset : Int) : Position :=
  Position.after (cs.take offset.toNat)

/-- The order of reading. -/
def Position.before (p q : Position) : Bool :=
  p.line < q.line || (p.line == q.line && p.column < q.column)

/-- Line and column, with a colon between them. -/
def Position.render (p : Position) : String :=
  s!"{p.line}:{p.column}"

/-! ## Search among line starts -/

/-- The offsets behind the line feeds of a text that begins at `offset`. -/
def startsFrom (offset : Nat) : List Char → List Nat
  | [] => []
  | c :: cs => if c == '\n' then (offset + 1) :: startsFrom (offset + 1) cs
    else startsFrom (offset + 1) cs

/-- The offsets at which the lines of a text begin. -/
def lineStarts (cs : List Char) : Array Nat :=
  (0 :: startsFrom 0 cs).toArray

/-- The number of entries between `low` and `high` and below `low` that are not above `offset`, in
an ascending array of which all entries below `low` and none from `high` on are. -/
def countUpTo (starts : Array Nat) (offset low high : Nat) : Nat :=
  if low < high then
    let mid := (low + high) / 2
    if offset < starts[mid]?.getD 0 then countUpTo starts offset low mid
    else countUpTo starts offset (mid + 1) high
  else low
termination_by high - low

/-- The position of an offset, given where the lines begin. -/
def Position.search (starts : Array Nat) (offset : Nat) : Position :=
  let line := countUpTo starts offset 0 starts.size
  ⟨line, offset - starts[line - 1]?.getD 0 + 1⟩

/-! ## Excerpts -/

/-- The items between two indices; a negative index counts from the end. -/
def slice {α : Type} (xs : List α) (start stop : Int) : List α :=
  let bound (i : Int) : Nat := if i < 0 then (i + xs.length).toNat else min i.toNat xs.length
  (xs.take (bound stop)).drop (bound start)

/-- What stands for an excerpt where the text has ended. -/
def endMark : String :=
  "<end of input>"

/-- The rest of the line at an offset, up to `width` code points. -/
def excerpt (cs : List Char) (offset : Int) (width : Int) : String :=
  let chunk := (slice cs offset (offset + width)).takeWhile (· != '\n')
  if chunk.isEmpty then endMark else String.ofList chunk

end LoopBound.Text
