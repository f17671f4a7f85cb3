import LoopBound.Command.Switch
import LoopBound.Text.Integer

/-!
# Words of the command line

Every word is sorted before any is acted upon: a switch, perhaps with a value attached to it, an
operand, or the separator behind which all words are operands. A long switch may be cut short as
long as only one begins so.
-/

namespace LoopBound.Command

open LoopBound.Text

/-- What stands behind a switch in its own word: nothing, what an equals sign sets off from a long
spelling, or what follows a short spelling, where an equals sign at the front is left out. -/
inductive Attached where
  | nothing
  | value (cs : List Char)
  | letters (cs : List Char)
  deriving DecidableEq, Repr

/-- What a word is. -/
inductive Role where
  | operand
  | separator
  | switch (s : Switch) (attached : Attached)
  | unknown
  deriving DecidableEq, Repr

/-- A word and what it is. -/
structure Word where
  text : String
  role : Role
  deriving DecidableEq, Repr

/-- The word that ends the switches. -/
def separatorText : String :=
  "--"

/-- Whether a spelling has one dash. -/
def isShort : List Char → Bool
  | '-' :: '-' :: _ => false
  | _ => true

/-- The part in front of the first equals sign, and what the sign sets off. -/
def splitValue (cs : List Char) : String × Attached :=
  let name := cs.takeWhile (· != '=')
  (String.ofList name,
    match cs.drop name.length with
    | [] => .nothing
    | _ :: value => if isShort name then .letters value else .value value)

/-- The switches that a word may stand for if it is not one as it is spelled. -/
def readings (scope : Scope) (text : String) : List (String × Role) :=
  match text.toList with
  | '-' :: '-' :: _ =>
    let (name, attached) := splitValue text.toList
    scope.spellings.filterMap fun (spelling, s) =>
      if name.toList.isPrefixOf spelling.toList then some (spelling, .switch s attached) else none
  | '-' :: c :: letters =>
    let spelling := String.ofList ['-', c]
    match scope.switch? spelling with
    | some s => [(spelling, .switch s (.letters letters))]
    | none => []
  | _ => []

/-- What a word that begins with a dash is, or the spellings among which it is not decided. -/
def dashedRole (scope : Scope) (text : String) : Except (List String) Role :=
  let (name, attached) := splitValue text.toList
  match scope.switch? name with
  | some s => .ok (.switch s attached)
  | none =>
    match readings scope text with
    | [(_, role)] => .ok role
    | [] =>
      if text == "-" || isNegativeNumber text.toList || text.toList.contains ' ' then .ok .operand
      else .ok .unknown
    | several => .error (several.map (·.1))

/-- What a word in front of the separator is, or the spellings among which it is not decided. -/
def roleOf (scope : Scope) (text : String) : Except (List String) Role :=
  if text.toList.head? == some '-' then dashedRole scope text else .ok .operand

/-- Sorts words, or gives the first that is not decided and the spellings it may stand for. -/
def sortWords (scope : Scope) : List String → Except (String × List String) (List Word)
  | [] => .ok []
  | text :: rest =>
    if text == separatorText then
      .ok (⟨text, .separator⟩ :: rest.map fun text => ⟨text, .operand⟩)
    else
      match roleOf scope text with
      | .error spellings => .error (text, spellings)
      | .ok role => (sortWords scope rest).map (⟨text, role⟩ :: ·)

end LoopBound.Command
