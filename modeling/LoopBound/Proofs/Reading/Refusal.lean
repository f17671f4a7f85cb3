import LoopBound.Proofs.Grammar.Completion
import LoopBound.Proofs.Reading.Formed
import LoopBound.Proofs.Reading.Order

/-!
# Which construct is reported

A text that is matched to its end is refused for a construct in the match: a `try` with nothing
behind its block, or a property of an object pattern that is neither a rest, nor a key with a value,
nor a name with or without a default. What was tried and given up on the way does not count, and a
text that is not matched to its end is refused for that alone.

Of several constructs the one is reported whose match ends first. The offences are listed as the
trees of the match are completed, and no offending construct is empty, so the first one listed is
the first to end.
-/

namespace LoopBound.Reading

open LoopBound.Grammar LoopBound.Grammar.Tree
open LoopBound.Text (Position)

/-! ## Offending constructs -/

mutual

/-- Offences are listed as the constructs are completed. -/
theorem offences_eq : ∀ t : Tree,
    offences t = t.completed.filterMap fun d => (ownOffence? d).map (·, d.source)
  | .leaf .. => by simp [offences, completed, ownOffence?]
  | .node r source n ts => by
    rw [offences, completed, List.filterMap_append, offencesIn_eq ts]
    cases h : ownOffence? (.node r source n ts) <;> simp [h, Tree.source]

theorem offencesIn_eq : ∀ ts : List Tree, offences.offencesIn ts
    = (completed.completedIn ts).filterMap fun d => (ownOffence? d).map (·, d.source)
  | [] => rfl
  | t :: ts => by
    rw [offences.offencesIn, completed.completedIn, List.filterMap_append, offences_eq t,
      offencesIn_eq ts]

end

/-- As parameters of an arrow, what is in the braces would have a property without a name. -/
example : (unnumbered? "({[a](){}})").isSome = true := by
  decide +kernel

end LoopBound.Reading
