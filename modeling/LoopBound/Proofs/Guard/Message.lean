import LoopBound.Guard.Inject
import LoopBound.Proofs.Grammar.Matching
import LoopBound.Proofs.Text.Escaped

/-!
# The message of a guard

A guarded loop throws with a message that names the guard and the bound. The stem of the name is
chosen by the caller and may hold anything, so the message is written as an escaped text. The string
token of the grammar has rules of its own for quotes, backslashes and line ends: here the two are
held against each other. Whatever the guard is called, its message is one token to the last quote,
in printable ASCII, and stands for the text that was meant.
-/

namespace LoopBound.Guard

open LoopBound.Grammar LoopBound.Syntax LoopBound.Text

/-! ## The token -/

theorem isLineEnd_of_isBare {c : Char} (h : isBare c = true) : isLineEnd c = false := by
  rw [isLineEnd, Bool.or_eq_false_iff, beq_eq_false_iff_ne, beq_eq_false_iff_ne]
  constructor
  · rintro rfl
    cases h
  · rintro rfl
    cases h

/-- A piece of text that a string in double quotes runs over: it ends behind the piece where it
would end without it. -/
def RunsOver (piece : List Char) : Prop :=
  ∀ cs, stringTail? '"' (piece ++ cs) = (stringTail? '"' cs).map (· + piece.length)

theorem runsOver_nil : RunsOver [] := by
  intro cs
  simp

theorem RunsOver.append {x y : List Char} (hx : RunsOver x) (hy : RunsOver y) :
    RunsOver (x ++ y) := by
  intro cs
  rw [List.append_assoc, hx, hy, Option.map_map, List.length_append]
  congr 1
  funext n
  simp only [Function.comp_apply]
  omega

theorem RunsOver.flatMap {α : Type} {piece : α → List Char} {l : List α}
    (h : ∀ a ∈ l, RunsOver (piece a)) : RunsOver (l.flatMap piece) := by
  induction l with
  | nil => exact runsOver_nil
  | cons a l ih =>
    exact (h a List.mem_cons_self).append (ih fun b hb => h b (List.mem_cons_of_mem a hb))

theorem runsOver_bare {c : Char} (h : isBare c = true) : RunsOver [c] := by
  intro cs
  obtain ⟨-, hquote, hbackslash⟩ := isBare_iff.1 h
  rw [List.cons_append, List.nil_append, stringTail?]
  · simp [hquote, hbackslash, isLineEnd_of_isBare h]
  · intro _ _ hc
    exact absurd hc hbackslash

theorem runsOver_backslash (e : Char) : RunsOver ['\\', e] := by
  intro cs
  rw [List.cons_append, List.cons_append, List.nil_append, stringTail?]
  rfl

theorem runsOver_escapedUnit (n : Nat) : RunsOver (escapedUnit n) := by
  have hdigits : RunsOver (hexDigits 4 n) := by
    rw [← List.flatMap_singleton' (hexDigits 4 n)]
    exact .flatMap fun d hd => runsOver_bare (isBare_of_mem_hexDigits d hd)
  exact (runsOver_backslash 'u').append hdigits

theorem runsOver_escapedChar (c : Char) : RunsOver (escapedChar c) := by
  have h := escaping c
  generalize escapedChar c = piece at h
  cases h with
  | short e => exact runsOver_backslash e
  | itself bare => exact runsOver_bare bare
  | byUnits => exact .flatMap fun n _ => runsOver_escapedUnit n

/-- An escaped text is one string token, whatever stands behind it. -/
theorem stringLength?_escaped (s : String) (rest : List Char) :
    stringLength? ((escaped s).toList ++ rest) = some (escaped s).length := by
  have hbody : RunsOver (s.toList.flatMap escapedChar) := .flatMap fun c _ => runsOver_escapedChar c
  have hclose : stringTail? '"' ('"' :: rest) = some 1 := rfl
  rw [← String.length_toList, toList_escaped, List.cons_append, List.append_assoc, stringLength?,
    hbody, List.singleton_append, hclose, Option.map_some, Option.map_some, List.length_cons,
    List.length_append, List.length_singleton, Nat.add_comm 1]

/-! ## The message -/

/-- What a statement throws a range error with, if it is a test in front of one such throw and the
error is given one string. -/
def thrownText? : Node → Option String
  | .ifStatement _ (.blockStatement [.throwStatement (.newExpression (.identifier "RangeError" _) _
      [.literal raw .string _] _) _] _) none _ => some raw
  | _ => none

/-- The statements of a guard throw one text. -/
theorem thrown_guardStatements (guard : String) (max : Int) :
    (guardStatements guard max).filterMap thrownText?
      = [escaped (thresholdMessage guard max)] := by
  have hincrement : thrownText? (increment guard) = none := rfl
  have hcheck : thrownText? (check guard max) = some (escaped (thresholdMessage guard max)) := by
    rw [check, thrownText?]
  rw [guardStatements, List.filterMap_cons_none hincrement, List.filterMap_cons_some hcheck,
    List.filterMap_nil]

/-- **The message of a guard is one string token**: among the statements that guard a loop one
throws a range error, with a text that the string token takes from its first to its last character
whatever stands behind it, that is printable ASCII throughout, and that stands for the message. -/
theorem message_is_one_token (guard : String) (max : Int) :
    ∃ raw, (guardStatements guard max).filterMap thrownText? = [raw]
      ∧ (∀ rest, (Pattern.token .string).match? (raw.toList ++ rest)
          = some ⟨raw.length, [.leaf .string (raw.toList ++ rest) raw.length]⟩)
      ∧ (∀ c ∈ raw.toList, ' ' ≤ c ∧ c ≤ '~')
      ∧ unescaped? raw = some (thresholdMessage guard max) := by
  refine ⟨_, thrown_guardStatements guard max, ?_, ?_, unescaped?_escaped _⟩
  · intro rest
    have htoken (cs : List Char) : Token.string.length? cs = stringLength? cs := rfl
    rw [Pattern.match?_token, htoken, stringLength?_escaped, Option.map_some]
  · intro c hc
    have hplain : isPlain c = true := isPlain_of_mem_escaped c hc
    rw [isPlain, Bool.and_eq_true, decide_eq_true_eq, decide_eq_true_eq] at hplain
    exact hplain

end LoopBound.Guard
