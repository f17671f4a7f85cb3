import LoopBound.Proofs.Guard.Formed
import LoopBound.Proofs.Guard.Rounds
import LoopBound.Proofs.Layout.Printable
import LoopBound.Proofs.Reading.Formed
import LoopBound.Transform

/-!
# Guarding a text fails only in reading it

A text that is read at all is read into a well-formed program, guarding keeps the program
well-formed, and what is well-formed can be printed. So no error of the printer is ever met, and a
text is left as it is in two cases only: it is no program, or none of its loops is to be guarded.
-/

namespace LoopBound

open LoopBound.Syntax LoopBound.Grammar LoopBound.Reading LoopBound.Guard LoopBound.Layout

variable {code : String} {settings : Settings}

/-! ## The steps -/

/-- Whatever loops are guarded in a text that was read, the result can be printed. -/
theorem generate_inject_of_parse {root : Node} (h : parse code = .ok root) (loops : List FoundLoop)
    (max : Int) (stem? : Option String) (indent : Int) :
    ∃ text, generate (inject root loops max stem?) indent = .ok text := by
  obtain ⟨n, tree, houtcome⟩ := exists_outcome code
  obtain ⟨-, -, ⟨ns, p, rfl⟩, hformed⟩ := houtcome.ok root h
  have hroot : Stands .statement (.program ns p) := ⟨rfl, hformed⟩
  exact generate_of_stands (stands_inject hroot loops max stem?) indent

/-- A search finds nothing exactly if no loop is of an enabled kind. -/
theorem locate_eq_nil_iff (root : Node) (kinds : List LoopKind) (c : Context) :
    (locate root kinds c).1 = [] ↔ ∀ l ∈ loopHeads root, l.kind ∉ kinds := by
  rw [← List.map_eq_nil_iff (f := FoundLoop.head), locate_heads, List.filter_eq_nil_iff]
  simp only [decide_eq_true_eq]

theorem insertGuards_of_error {e : ReadError} (h : parse code = .error e) :
    insertGuards code settings = .error (.reading e) := by
  rw [insertGuards, examine, h]
  rfl

/-- What has been read and searched is guarded, and left as it is where no loop was found. -/
theorem guardSurvey_of_parse {s : Survey} (h : parse code = .ok s.tree) :
    ∃ g, guardSurvey code settings s = .ok g ∧ (s.loops = [] → g = ⟨code, []⟩) := by
  rw [guardSurvey]
  cases hloops : s.loops with
  | nil => exact ⟨_, rfl, fun _ => rfl⟩
  | cons l ls =>
    obtain ⟨text, htext⟩ := generate_inject_of_parse h (l :: ls) settings.max
      (some s.context.stem) settings.indent
    refine ⟨⟨text, s.context.allocated⟩, ?_, fun hnil => by cases hnil⟩
    simp only [List.isEmpty_cons, htext]
    rfl

theorem insertGuards_of_ok {root : Node} (h : parse code = .ok root) :
    ∃ g, insertGuards code settings = .ok g
      ∧ ((∀ l ∈ loopHeads root, l.kind ∉ settings.loops) → g = ⟨code, []⟩) := by
  let s : Survey :=
    ⟨root, (survey root settings.loops {}).1, (survey root settings.loops {}).2⟩
  have hexamine : examine code settings.loops = .ok s := by
    rw [examine, h]
    rfl
  obtain ⟨g, hg, hsame⟩ := @guardSurvey_of_parse code settings s h
  have hloops : s.loops = (locate root settings.loops {}).1 := rfl
  rw [hloops, locate_eq_nil_iff] at hsame
  refine ⟨g, ?_, hsame⟩
  rw [insertGuards, hexamine]
  simp only [hg]

/-! ## Guarding a text -/

/-- How guarding a text ends: with the error of reading it and the text as it was, or with a guarded
text. -/
structure FallsBack (code : String) (settings : Settings) : Prop where
  unread : ∀ e, parse code = .error e → insertGuards code settings = .error (.reading e)
    ∧ transform code settings = ⟨code, [], some (.reading e)⟩
  guarded : ∀ root, parse code = .ok root → ∃ g, insertGuards code settings = .ok g
    ∧ transform code settings = ⟨g.code, g.guards, none⟩
  unlooped : ∀ root, parse code = .ok root → (∀ l ∈ loopHeads root, l.kind ∉ settings.loops) →
    insertGuards code settings = .ok ⟨code, []⟩ ∧ transform code settings = ⟨code, [], none⟩

theorem fallsBack (code : String) (settings : Settings) : FallsBack code settings := by
  refine ⟨fun e h => ?_, fun root h => ?_, fun root h hkinds => ?_⟩
  · have hinsert := @insertGuards_of_error code settings e h
    exact ⟨hinsert, by rw [transform, hinsert]⟩
  · obtain ⟨g, hinsert, -⟩ := @insertGuards_of_ok code settings root h
    exact ⟨g, hinsert, by rw [transform, hinsert]⟩
  · obtain ⟨g, hinsert, hsame⟩ := @insertGuards_of_ok code settings root h
    rw [hsame hkinds] at hinsert
    exact ⟨hinsert, by rw [transform, hinsert]⟩

/-- A text that is no program ends in one of two codes, which is not that of unexpected input. -/
theorem code_of_parse {e : ReadError} (h : parse code = .error e) :
    e.code.render = "LG-1001" ∨ e.code.render = "LG-1002" := by
  obtain ⟨n, tree, houtcome⟩ := exists_outcome code
  rcases houtcome.error e h with ⟨hcode, -⟩ | ⟨hcode, -⟩
  · exact .inl (by rw [hcode]; decide)
  · exact .inr (by rw [hcode]; decide)

/-- **Guarding a text fails in reading it or not at all.** The text is matched, all its chains of
operators are folded, and a text that cannot be read has one of two codes. Any loops of a tree that
was read can be guarded and the tree printed. So guarding a text fails exactly if reading it does,
and then the text stays as it is. -/
theorem transform_fails_only_in_reading (code : String) (settings : Settings) :
    (∃ n tree, Outcome code n tree)
      ∧ (∀ e, parse code = .error e → e.code.render = "LG-1001" ∨ e.code.render = "LG-1002")
      ∧ (∀ root, parse code = .ok root → ∀ loops max stem? indent,
          ∃ text, generate (inject root loops max stem?) indent = .ok text)
      ∧ FallsBack code settings
      ∧ ((transform code settings).ok = false ↔ ∃ e, parse code = .error e)
      ∧ ((transform code settings).ok = false ↔ ∃ f, insertGuards code settings = .error f)
      ∧ ∀ g, insertGuards code settings = .ok g → (transform code settings).code = g.code := by
  have hfalls := fallsBack code settings
  refine ⟨exists_outcome code, fun e h => code_of_parse h,
    fun root h => generate_inject_of_parse h, hfalls, ?_, ?_, ?_⟩
  · cases hparse : parse code with
    | error e => simp [(hfalls.unread e hparse).2, Transformed.ok]
    | ok root =>
      obtain ⟨g, -, hg⟩ := hfalls.guarded root hparse
      simp [hg, Transformed.ok]
  · rw [transform]
    cases insertGuards code settings with
    | error f => simp [Transformed.ok]
    | ok g => simp [Transformed.ok]
  · intro g hg
    rw [transform, hg]

end LoopBound
