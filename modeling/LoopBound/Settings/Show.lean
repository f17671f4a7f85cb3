import LoopBound.Settings.Value
import LoopBound.Decimal.Double
import LoopBound.Text.Quoted

/-!
# Values in messages

How a message shows a value that it complains about.
-/

namespace LoopBound.Settings

/-- The written form of a value. -/
def Value.render : Value → String
  | .null => "None"
  | .truth b => if b then "True" else "False"
  | .whole n => toString n
  | .real bits => Decimal.renderDouble bits
  | .text s => Text.quoted s
  | .list items => "[" ++ ", ".intercalate (renderItems items) ++ "]"
  | .mapping entries => "\x7b" ++ ", ".intercalate (renderEntries entries) ++ "\x7d"
where
  renderItems : List Value → List String
    | [] => []
    | v :: vs => v.render :: renderItems vs
  renderEntries : List (String × Value) → List String
    | [] => []
    | (k, v) :: rest => (Text.quoted k ++ ": " ++ v.render) :: renderEntries rest

end LoopBound.Settings
