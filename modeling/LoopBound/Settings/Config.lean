import LoopBound.Settings.Merge
import LoopBound.Settings.Show
import LoopBound.Syntax.Loop
import LoopBound.Diagnostic.Report

/-!
# Settings

The settings of a run: the threshold of the guards, the kinds of loops that are guarded and the
width of an indentation step. Values from outside are checked once, and what passes is a `Settings`,
whose threshold is positive.

The checks come in a fixed order, and the first failure is reported: the shape of the list of kinds,
each of its entries, the threshold, the width.
-/

namespace LoopBound

open LoopBound.Syntax LoopBound.Diagnostic

/-- Checked settings. The kinds are in their usual order, each once. -/
structure Settings where
  max : Nat
  loops : List LoopKind
  indent : Nat
  max_pos : 0 < max := by decide
  deriving Repr, DecidableEq

namespace Settings

/-- The usual settings. -/
def usual : Settings :=
  ⟨1000, LoopKind.all, 2, by decide⟩

/-- What is wrong with a value that settings are to be made from. -/
inductive Problem where
  | noMapping (v : Value)
  | noKindList (v : Value)
  | unknownKind (v : Value) (listed : Bool)
  | maxNotPositive (v : Value)
  | indentNegative (v : Value)
  deriving Repr

namespace Problem

/-- The message of an error. -/
def message : Problem → String
  | noMapping v => "Expected a mapping or GuardConfig, got " ++ v.kindName
  | noKindList v => "loops must be a list of loop kinds, got " ++ v.render
  | unknownKind v _ => "Unknown loop kind " ++ v.render
  | maxNotPositive v => "max must be a positive integer, got " ++ v.render
  | indentNegative v => "indent must be a non-negative integer, got " ++ v.render

/-- The code of an error. -/
def code : Problem → Code
  | noMapping _ => .invalidOption
  | noKindList _ => .invalidOption
  | unknownKind _ _ => .unknownLoopKind
  | maxNotPositive _ => .invalidMax
  | indentNegative _ => .invalidOption

/-- The setting that is at fault. -/
def key : Problem → String
  | noMapping _ => ""
  | noKindList _ => "loops"
  | unknownKind _ _ => "loops"
  | maxNotPositive _ => "max"
  | indentNegative _ => "indent"

/-- What would be right, where the values to choose from are listed. -/
def hint : Problem → String
  | unknownKind _ true => "expected one of: " ++ ", ".intercalate (LoopKind.all.map (·.name))
  | _ => ""

/-- The report of an error. -/
def report (e : Problem) : Report :=
  ⟨.settings e.key, e.code, e.message, {}, e.hint⟩

end Problem

/-! ## Kinds -/

/-- Why a value names no kind of loop. -/
inductive KindError where
  | unknownName (name : String)
  | noText (v : Value)
  deriving Repr

/-- The message of an error. -/
def KindError.message : KindError → String
  | unknownName name => Text.quoted name ++ " is not a valid LoopKind"
  | noText v => v.render ++ " is not a loop kind"

/-- The kind of loop that a value names. -/
def kindOf : Value → Except KindError LoopKind
  | .text s =>
    match LoopKind.ofText? s with
    | some k => .ok k
    | none => .error (.unknownName (LoopKind.normalName s))
  | v => .error (.noText v)

/-- The kinds that values name, or the first value that names none. -/
def kindsOf : List Value → Except Value (List LoopKind)
  | [] => .ok []
  | v :: vs =>
    match kindOf v with
    | .error _ => .error v
    | .ok k => do return k :: (← kindsOf vs)

/-- Kinds in their usual order, each once. -/
def inUsualOrder (kinds : List LoopKind) : List LoopKind :=
  LoopKind.all.filter fun k => k ∈ kinds

/-! ## Checks -/

/-- A positive whole number. -/
def positive? : Value → Option Nat
  | .whole n => if 0 < n then some n.toNat else none
  | _ => none

/-- A whole number that is not negative. -/
def notNegative? : Value → Option Nat
  | .whole n => if 0 ≤ n then some n.toNat else none
  | _ => none

theorem pos_of_positive? {v : Value} {n : Nat} (h : positive? v = some n) : 0 < n := by
  unfold positive? at h
  split at h
  · split at h
    · cases h; omega
    · cases h
  · cases h

/-- The entries of a list of kinds; a mapping stands for its keys. -/
def kindEntries? : Value → Option (List Value)
  | .list items => some items
  | .mapping entries => some (entries.map fun e => .text e.1)
  | _ => none

/-- The usual settings as a mapping. -/
def defaults : Mapping := [
  ("max", .whole 1000), ("loops", .list (LoopKind.all.map fun k => .text k.name)),
  ("indent", .whole 2)]

/-- The usual settings with overrides. -/
def config (overrides : Mapping) : Mapping :=
  merge defaults overrides

/-- Checks threshold and width, the kinds being settled. -/
def checked (max : Value) (loops : List LoopKind) (indent : Value) :
    Except Problem Settings :=
  match h : positive? max with
  | none => .error (.maxNotPositive max)
  | some m =>
    match notNegative? indent with
    | none => .error (.indentNegative indent)
    | some i => .ok ⟨m, inUsualOrder loops, i, pos_of_positive? h⟩

/-- Settings from overrides. -/
def ofMapping (overrides : Mapping) : Except Problem Settings :=
  let merged := config overrides
  let value (key : String) := (merged.get? key).getD .null
  match kindEntries? (value "loops") with
  | none => .error (.noKindList (value "loops"))
  | some entries =>
    match kindsOf entries with
    | .error v => .error (.unknownKind v true)
    | .ok kinds => checked (value "max") kinds (value "indent")

/-- Settings from a value: nothing means the usual ones. -/
def ofValue : Value → Except Problem Settings
  | .null => .ok usual
  | .mapping overrides => ofMapping overrides
  | v => .error (.noMapping v)

/-- The settings as a mapping. -/
def toMapping (s : Settings) : Mapping := [
  ("max", .whole s.max), ("loops", .list (s.loops.map fun k => .text k.name)),
  ("indent", .whole s.indent)]

/-! ## Drafts -/

/-- Settings that have not been checked. A text is a kind only if it is exactly its name. -/
structure Draft where
  max : Value := .whole 1000
  loops : List Value := LoopKind.all.map fun k => .text k.name
  indent : Value := .whole 2

namespace Draft

/-- The kind that an entry is. -/
def kind? : Value → Option LoopKind
  | .text s => LoopKind.ofName? s
  | _ => none

/-- All that is wrong with a draft. -/
def problems (d : Draft) : List Problem :=
  (if (positive? d.max).isSome then [] else [.maxNotPositive d.max]) ++
    (d.loops.filterMap fun v => if (kind? v).isSome then none else some (.unknownKind v false)) ++
    (if (notNegative? d.indent).isSome then [] else [.indentNegative d.indent])

/-- The settings of a draft without problems. -/
def check (d : Draft) : Except Problem Settings :=
  match d.problems with
  | e :: _ => .error e
  | [] => checked d.max (d.loops.filterMap kind?) d.indent

end Draft

end Settings

end LoopBound
