/-!
# Values of settings

Settings arrive as data of unknown shape: a value is nothing, a truth value, a whole number of any
size, a floating-point number, a text, a list or a mapping. A mapping keeps the order in which its
keys were given.

A floating-point number is kept as its 64 bits, so values can be compared, and zero is told from
minus zero.
-/

namespace LoopBound.Settings

/-- A value of a setting. -/
inductive Value where
  | null
  | truth (b : Bool)
  | whole (n : Int)
  | real (bits : UInt64)
  | text (s : String)
  | list (items : List Value)
  | mapping (entries : List (String × Value))
  deriving Inhabited, Repr

/-- A mapping's entries, in order, each key once. -/
abbrev Mapping := List (String × Value)

/-- The value at a key. -/
def Mapping.get? (m : Mapping) (key : String) : Option Value :=
  m.lookup key

/-- Sets the value at a key: in place if the key is there, else at the end. -/
def Mapping.put (m : Mapping) (key : String) (v : Value) : Mapping :=
  match m with
  | [] => [(key, v)]
  | (k, old) :: rest => if k == key then (k, v) :: rest else (k, old) :: Mapping.put rest key v

/-- The keys in order. -/
def Mapping.keys (m : Mapping) : List String :=
  m.map (·.1)

/-- The kind of a value, as messages name it. -/
def Value.kindName : Value → String
  | .null => "NoneType"
  | .truth _ => "bool"
  | .whole _ => "int"
  | .real _ => "float"
  | .text _ => "str"
  | .list _ => "list"
  | .mapping _ => "dict"

end LoopBound.Settings
