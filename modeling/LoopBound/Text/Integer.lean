import LoopBound.Text.Blank
import LoopBound.Text.Digit

/-!
# Whole numbers as they are typed

A whole number may have a sign, blanks around it and single underscores between its digits, which
may be digits of any script.
-/

namespace LoopBound.Text

/-- The most digits that a number may have. -/
def mostDigits : Nat :=
  4300

/-- The digits of a number in which single underscores stand between digits. -/
def groupedDigits? : List Char → Option (List Char)
  | [] => none
  | [c] => if isDigit c then some [c] else none
  | c :: '_' :: cs => if isDigit c then (groupedDigits? cs).map (c :: ·) else none
  | c :: cs => if isDigit c then (groupedDigits? cs).map (c :: ·) else none

/-- A number without a sign. -/
def unsigned? (cs : List Char) : Option Nat := do
  let digits ← groupedDigits? cs
  if digits.length ≤ mostDigits then numberOf? digits else none

/-- The number that a text spells. -/
def integer? (s : String) : Option Int :=
  match stripped isBlank s.toList with
  | '-' :: cs => (unsigned? cs).map fun n => -(n : Int)
  | '+' :: cs => (unsigned? cs).map fun n => (n : Int)
  | cs => (unsigned? cs).map fun n => (n : Int)

/-- A word that is a negative number, in digits with at most one point among them; a line feed may
follow. -/
def isNegativeNumber (cs : List Char) : Bool :=
  let ended (cs : List Char) : Bool := cs == [] || cs == ['\n']
  match cs with
  | '-' :: cs =>
    let behind := cs.dropWhile isDigit
    (cs.head?.any isDigit && ended behind) ||
      match behind with
      | '.' :: cs => cs.head?.any isDigit && ended (cs.dropWhile isDigit)
      | _ => false
  | _ => false

end LoopBound.Text
