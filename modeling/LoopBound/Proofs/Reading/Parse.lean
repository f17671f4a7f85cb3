import LoopBound.Proofs.Syntax.LoopIds
import LoopBound.Reading.Program

/-!
# Reading a given text

A text is read into the tree of its match, with the loops numbered. The match and the tree of a given
text can be had by evaluation; the numbers are put in afterwards.
-/

namespace LoopBound.Reading

open LoopBound.Syntax LoopBound.Grammar

/-- The tree of a text before its loops are numbered. -/
def unnumbered? (text : String) : Option Node :=
  match matchProgram text.toList with
  | some ⟨n, [tree]⟩ =>
    if n < text.toList.length then none
    else
      match offences tree with
      | [] =>
        (Part.ofTree (suffixPosition (Text.lineStarts text.toList) text.toList.length)
          tree).program?
      | _ :: _ => none
  | _ => none

/-- What a whole match without offences is read into. -/
theorem parse_of_match {text : String} {m : Nat} {tree : Tree}
    (hmatch : matchProgram text.toList = some ⟨m, [tree]⟩) (hlen : ¬m < text.toList.length)
    (hoffences : offences tree = []) :
    parse text = .ok
      (treeOf (suffixPosition (Text.lineStarts text.toList) text.toList.length) tree) := by
  simp only [parse, hmatch, hoffences, hlen, if_false]

/-- A given text can be read by evaluation up to the numbers of its loops. -/
theorem parse_of_unnumbered {text : String} {n : Node} (h : unnumbered? text = some n) :
    parse text = .ok n.number := by
  unfold unnumbered? at h
  split at h
  · rename_i m tree hmatch
    split at h
    · simp at h
    · rename_i hlen
      split at h
      · rename_i hoffences
        rw [parse_of_match hmatch hlen hoffences, treeOf, h]
      · simp at h
  · simp at h

/-- A loop with a label, alone in a branch. -/
def sampleText : String :=
  "if(a)b:while(c)d"

/-- The tree of the loop with a label. -/
def sampleTree : Node :=
  .program [.ifStatement (.identifier "a" ⟨1, 4⟩)
    (.labeledStatement (.identifier "b" ⟨1, 6⟩)
      (.whileStatement 0 (.identifier "c" ⟨1, 14⟩)
        (.expressionStatement (.identifier "d" ⟨1, 16⟩) ⟨1, 16⟩) ⟨1, 8⟩) ⟨1, 6⟩) none ⟨1, 1⟩]
    ⟨1, 1⟩

/-- The tree is the sample. -/
def isSample : Node → Bool
  | .program [.ifStatement (.identifier "a" ⟨1, 4⟩)
      (.labeledStatement (.identifier "b" ⟨1, 6⟩)
        (.whileStatement 0 (.identifier "c" ⟨1, 14⟩)
          (.expressionStatement (.identifier "d" ⟨1, 16⟩) ⟨1, 16⟩) ⟨1, 8⟩) ⟨1, 6⟩) none ⟨1, 1⟩]
      ⟨1, 1⟩ => true
  | _ => false

theorem eq_sample {n : Node} (h : isSample n = true) : n = sampleTree := by
  unfold isSample at h
  split at h
  · rfl
  · simp at h

theorem number_sampleTree : sampleTree.number = sampleTree := by
  simp only [sampleTree, Node.number, Node.numberFrom_eq, Node.numberAll, Node.children,
    Node.slots, Slot.nodes, Node.withLoopId, List.flatMap_cons, List.flatMap_nil, List.cons_append,
    List.nil_append, Option.toList]
  rfl

theorem parse_sampleText : parse sampleText = .ok sampleTree := by
  have hsome : ((unnumbered? sampleText).any isSample) = true := by decide +kernel
  obtain ⟨n, hn, hsample⟩ := (Option.any_eq_true _ _).1 hsome
  rw [parse_of_unnumbered hn, eq_sample hsample, number_sampleTree]

end LoopBound.Reading
