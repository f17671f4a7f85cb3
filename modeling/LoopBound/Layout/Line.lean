/-!
# Lines and fragments

Printed text is laid out before it is indented: a line knows how many steps it stands in, and only
`renderLines` turns steps into spaces. So the layout cannot depend on the width of a step. Lines
that come from inside a token, such as those of a template, stay at the edge whatever is around
them.

A *fragment* is text within a line that may go on over further lines. *Lines* are what statements
print; labels wait until the next line begins.
-/

namespace LoopBound.Layout

/-- Where a line begins. -/
inductive Margin where
  | edge
  | steps (n : Nat)
  deriving DecidableEq, Repr, Inhabited

/-- The margin some steps further in; the edge stays where it is. -/
def Margin.shift (k : Nat) : Margin → Margin
  | edge => edge
  | steps n => steps (n + k)

/-- The number of steps. -/
def Margin.depth : Margin → Nat
  | edge => 0
  | steps n => n

/-- One line of text, which holds no line feed. -/
structure Line where
  margin : Margin
  text : String
  deriving DecidableEq, Repr, Inhabited

namespace Line

/-- The line some steps further in. -/
def shift (k : Nat) (l : Line) : Line :=
  ⟨l.margin.shift k, l.text⟩

/-- The line with spaces in front. -/
def render (indent : Nat) (l : Line) : String :=
  String.ofList (List.replicate (indent * l.margin.depth) ' ') ++ l.text

end Line

/-- Lines with line feeds between them, `indent` spaces for every step. -/
def renderLines (indent : Nat) (ls : List Line) : String :=
  "\n".intercalate (ls.map (Line.render indent))

/-- Adds text to the last line. -/
def extendLast (s : String) : List Line → List Line
  | [] => []
  | [l] => [⟨l.margin, l.text ++ s⟩]
  | l :: ls => l :: extendLast s ls

/-- Puts text in front of the first line. -/
def extendFirst (s : String) : List Line → List Line
  | [] => []
  | l :: ls => ⟨l.margin, s ++ l.text⟩ :: ls

/-! ## Fragments -/

/-- Text that begins within a line and may go on over further lines. -/
structure Fragment where
  head : String
  tail : List Line
  deriving DecidableEq, Repr, Inhabited

/-- The first line of a text, and the others. -/
def splitLines : List Char → List Char × List (List Char)
  | [] => ([], [])
  | c :: cs =>
    let (first, others) := splitLines cs
    if c == '\n' then ([], first :: others) else (c :: first, others)

namespace Fragment

/-- The text of a token; its own lines stay at the edge. -/
def ofText (s : String) : Fragment :=
  let (first, others) := splitLines s.toList
  ⟨String.ofList first, others.map fun l => ⟨.edge, String.ofList l⟩⟩

instance : Coe String Fragment := ⟨ofText⟩

/-- One fragment right behind the other. -/
def append (f g : Fragment) : Fragment :=
  match f.tail with
  | [] => ⟨f.head ++ g.head, g.tail⟩
  | _ :: _ => ⟨f.head, extendLast g.head f.tail ++ g.tail⟩

instance : Append Fragment := ⟨append⟩

/-- Fragments with text between them. -/
def join (between : Fragment) : List Fragment → Fragment
  | [] => ⟨"", []⟩
  | [f] => f
  | f :: fs => f ++ between ++ join between fs

/-- The first line begins with this text. -/
def beginsWith (s : String) (f : Fragment) : Bool :=
  s.toList.isPrefixOf f.head.toList

/-- The text without any indentation. -/
def text (f : Fragment) : String :=
  "\n".intercalate (f.head :: f.tail.map (·.text))

/-- The fragment on lines of its own, some steps in. -/
def lines (k : Nat) (f : Fragment) : List Line :=
  ⟨.steps k, f.head⟩ :: f.tail.map (Line.shift k)

end Fragment

/-! ## Lines with a waiting label -/

/-- Lines, and the labels that wait for the line after them. -/
structure Lines where
  lines : List Line
  waiting : String
  deriving DecidableEq, Repr, Inhabited

namespace Lines

/-- No lines. -/
def none : Lines :=
  ⟨[], ""⟩

/-- A line of its own. -/
def line (f : Fragment) : Lines :=
  ⟨f.lines 0, ""⟩

/-- A label for the next line. -/
def label (s : String) : Lines :=
  ⟨[], s⟩

/-- Lines below lines. -/
def append (a b : Lines) : Lines :=
  match b.lines with
  | [] => ⟨a.lines, a.waiting ++ b.waiting⟩
  | _ :: _ => ⟨a.lines ++ extendFirst a.waiting b.lines, b.waiting⟩

instance : Append Lines := ⟨append⟩

/-- The lines one step further in. -/
def indented (a : Lines) : Lines :=
  ⟨a.lines.map (Line.shift 1), a.waiting⟩

/-- One more line below the lines, or text behind the last of them and a space. A label that waits
stays in front of the next line. -/
def put (joined : Bool) (f : Fragment) (a : Lines) : Lines :=
  if joined then ⟨extendLast (" " ++ f.head) a.lines ++ f.tail, a.waiting⟩ else a ++ line f

end Lines

end LoopBound.Layout
