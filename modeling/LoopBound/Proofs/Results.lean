import Mathlib.Data.List.Basic

/-!
# Steps that may fail

Where a computation of several steps comes to a result, so has each of its steps.
-/

namespace LoopBound

variable {ε α β : Type}

theorem exists_of_bind_ok {m : Except ε α} {k : α → Except ε β} {b : β}
    (h : m >>= k = .ok b) : ∃ a, m = .ok a ∧ k a = .ok b := by
  cases m with
  | error e => cases h
  | ok a => exact ⟨a, rfl, h⟩

end LoopBound
