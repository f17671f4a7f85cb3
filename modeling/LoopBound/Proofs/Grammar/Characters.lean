import LoopBound.Proofs.Grammar.Bounds
import Mathlib.Data.List.TakeWhile

/-!
# Classes of characters

How the classes that tokens are made of lie to each other: a blank is no part of a name, a digit is
one. A name ends where no further part of a name follows, so a text begins with one name at most.
-/

namespace LoopBound.Grammar

open LoopBound.Text

/-! ## Ranges -/

theorem has_of_covered {ranges covering : Ranges}
    (h : ranges.all (fun r => covering.any fun s => s.1 ≤ r.1 && r.2 ≤ s.2) = true) {c : Char}
    (hc : ranges.has c = true) : covering.has c = true := by
  obtain ⟨r, hr, hlow, hhigh⟩ := Ranges.has_iff.1 hc
  obtain ⟨s, hs, hcover⟩ := List.any_eq_true.1 (List.all_eq_true.1 h r hr)
  rw [Bool.and_eq_true, decide_eq_true_eq, decide_eq_true_eq] at hcover
  exact Ranges.has_iff.2 ⟨s, hs, Nat.le_trans hcover.1 hlow, Nat.le_trans hhigh hcover.2⟩

theorem not_has_of_apart {ranges other : Ranges}
    (h : ranges.all (fun r => other.all fun s => s.2 < r.1 || r.2 < s.1) = true) {c : Char}
    (hc : ranges.has c = true) : other.has c = false := by
  rw [Bool.eq_false_iff]
  intro hother
  obtain ⟨r, hr, hlow, hhigh⟩ := Ranges.has_iff.1 hc
  obtain ⟨s, hs, hlow', hhigh'⟩ := Ranges.has_iff.1 hother
  have hapart := List.all_eq_true.1 (List.all_eq_true.1 h r hr) s hs
  rw [Bool.or_eq_true, decide_eq_true_eq, decide_eq_true_eq] at hapart
  omega

/-- The word characters of ASCII. -/
def asciiWordRanges : Ranges :=
  [(0x30, 0x39), (0x41, 0x5A), (0x5F, 0x5F), (0x61, 0x7A)]

theorem char_le_iff (c d : Char) : c ≤ d ↔ c.toNat ≤ d.toNat := Iff.rfl

theorem isAsciiWord_iff {c : Char} : (isAsciiLetter c || isAsciiDigit c || c == '_') = true
    ↔ asciiWordRanges.has c = true := by
  have heq : c = '_' ↔ c.toNat = 0x5F := by
    constructor
    · rintro rfl
      rfl
    · intro h
      exact Char.toNat_inj.1 h
  have ha : 'a'.toNat = 0x61 := rfl
  have hz : 'z'.toNat = 0x7A := rfl
  have hA : 'A'.toNat = 0x41 := rfl
  have hZ : 'Z'.toNat = 0x5A := rfl
  have h0 : '0'.toNat = 0x30 := rfl
  have h9 : '9'.toNat = 0x39 := rfl
  simp only [isAsciiLetter, isAsciiDigit, Bool.or_eq_true, Bool.and_eq_true, decide_eq_true_eq,
    char_le_iff, beq_iff_eq, heq, asciiWordRanges, Ranges.has, List.any_cons, List.any_nil,
    Bool.or_false, ha, hz, hA, hZ, h0, h9]
  omega

theorem isAscii_of_asciiWordRanges {c : Char} (h : asciiWordRanges.has c = true) :
    isAscii c = true := by
  obtain ⟨r, hr, -, hhigh⟩ := Ranges.has_iff.1 h
  have hle : r.2 < 128 := by
    simp only [asciiWordRanges, List.mem_cons, List.not_mem_nil, or_false] at hr
    rcases hr with rfl | rfl | rfl | rfl <;> decide
  simp only [isAscii, decide_eq_true_eq]
  omega

/-- The word characters are those of the two lists of ranges. -/
theorem isWord_iff {c : Char} :
    isWord c = true ↔ asciiWordRanges.has c = true ∨ isAscii c = false ∧ wordRanges.has c = true := by
  unfold isWord
  split
  · rename_i h
    rw [isAsciiWord_iff]
    simp [h]
  · rename_i h
    have hno : asciiWordRanges.has c = false :=
      Bool.eq_false_iff.2 fun hw => h (isAscii_of_asciiWordRanges hw)
    simp [h, hno]

/-! ## Blanks -/

theorem isNamePart_of_isBlank {c : Char} (h : isBlank c = true) : isNamePart c = false := by
  have hword : isWord c = false := by
    rw [Bool.eq_false_iff, ne_eq, isWord_iff]
    rintro (hw | ⟨-, hw⟩)
    · have hno : asciiWordRanges.has c = false := not_has_of_apart (by decide +kernel) h
      rw [hno] at hw
      cases hw
    · have hno : wordRanges.has c = false := not_has_of_apart (by decide +kernel) h
      rw [hno] at hw
      cases hw
  have hdollar : (c == '$') = false := by
    rw [Bool.eq_false_iff, ne_eq, beq_iff_eq]
    rintro rfl
    exact absurd h (by decide)
  rw [isNamePart, hword, hdollar]
  rfl

theorem isBlank_of_isNamePart {c : Char} (h : isNamePart c = true) : isBlank c = false := by
  rw [Bool.eq_false_iff]
  intro hb
  rw [isNamePart_of_isBlank hb] at h
  cases h

theorem isBlank_of_isLineBlank {c : Char} (h : isLineBlank c = true) : isBlank c = true := by
  simp only [isLineBlank, Bool.or_eq_true, beq_iff_eq] at h
  rcases h with ((rfl | rfl) | rfl) | rfl <;> decide

theorem isBlank_of_isLineEnd {c : Char} (h : isLineEnd c = true) : isBlank c = true := by
  simp only [isLineEnd, Bool.or_eq_true, beq_iff_eq] at h
  rcases h with rfl | rfl <;> decide

/-! ## Digits -/

theorem isNamePart_of_isScriptDigit {c : Char} (h : isScriptDigit c = true) :
    isNamePart c = true := by
  have hword : isWord c = true := by
    rw [isScriptDigit, Bool.or_eq_true, isDigit] at h
    rcases h with h | h
    · split at h
      · rename_i ha
        rw [isWord, if_pos ha, h]
        simp
      · rename_i ha
        rw [isWord, if_neg ha]
        exact has_of_covered (by decide +kernel) h
    · rw [Bool.and_eq_true, Bool.not_eq_true'] at h
      rw [isWord, if_neg (by simp [h.1])]
      exact has_of_covered (by decide +kernel) h.2
  rw [isNamePart, hword]
  rfl

theorem not_isNameStart_of_isScriptDigit {c : Char} (h : isScriptDigit c = true) :
    isNameStart c = false := by
  have hdollar : (c == '$') = false := by
    rw [Bool.eq_false_iff, ne_eq, beq_iff_eq]
    rintro rfl
    exact absurd h (by decide)
  rw [isNameStart, h, hdollar]
  simp

/-! ## Names -/

/-- The characters are a name. -/
def isName : List Char → Bool
  | [] => false
  | c :: cs => isNameStart c && cs.all isNamePart

theorem isNamePart_of_mem_name {x : List Char} (h : isName x = true) : ∀ c ∈ x,
    isNamePart c = true := by
  cases x with
  | nil => simp
  | cons c cs =>
    rw [isName, Bool.and_eq_true, List.all_eq_true] at h
    rintro d hd
    rcases List.mem_cons.1 hd with rfl | hd
    · exact isNamePart_of_isNameStart h.1
    · exact h.2 d hd

theorem takeWhile_name {x rest : List Char} {p : Char → Bool} (hx : ∀ c ∈ x, p c = true)
    (hrest : startsIn p rest = false) : (x ++ rest).takeWhile p = x := by
  rw [List.takeWhile_append_of_pos hx]
  cases rest with
  | nil => simp
  | cons c rest => simp [show p c = false from hrest]

theorem runLength_append {x rest : List Char} {p : Char → Bool} (hx : ∀ c ∈ x, p c = true)
    (hrest : startsIn p rest = false) : runLength p (x ++ rest) = x.length := by
  rw [runLength, takeWhile_name hx hrest]

theorem startsIn_eq_false_of_edge {rest : List Char} (h : atNameEdge rest = true) :
    startsIn isNamePart rest = false := by
  simpa [atNameEdge] using h

/-- Two runs of name characters at the front of one text are the same if nothing of a name follows
either. -/
theorem run_unique {x y rest rest' : List Char} (hx : ∀ c ∈ x, isNamePart c = true)
    (hy : ∀ c ∈ y, isNamePart c = true) (hrest : atNameEdge rest = true)
    (hrest' : atNameEdge rest' = true) (h : x ++ rest = y ++ rest') : x = y ∧ rest = rest' := by
  have hxy : x = y := by
    rw [← takeWhile_name hx (startsIn_eq_false_of_edge hrest), h,
      takeWhile_name hy (startsIn_eq_false_of_edge hrest')]
  subst hxy
  exact ⟨rfl, List.append_cancel_left h⟩

theorem nameLength?_append {x rest : List Char} (hx : isName x = true)
    (hrest : atNameEdge rest = true) : nameLength? (x ++ rest) = some x.length := by
  cases x with
  | nil => cases hx
  | cons c cs =>
    have hparts := isNamePart_of_mem_name hx
    rw [isName, Bool.and_eq_true] at hx
    rw [List.cons_append, nameLength?, if_pos hx.1, runLength_append
      (fun d hd => hparts d (List.mem_cons_of_mem c hd)) (startsIn_eq_false_of_edge hrest),
      List.length_cons, Nat.add_comm]

/-- A name token takes a name and ends where nothing of it follows. -/
theorem nameLength?_eq_some {cs : List Char} {n : Nat} (h : nameLength? cs = some n) :
    ∃ x rest, cs = x ++ rest ∧ x.length = n ∧ isName x = true ∧ atNameEdge rest = true := by
  cases cs with
  | nil => cases h
  | cons c cs =>
    rw [nameLength?] at h
    split at h
    · rename_i hstart
      rw [Option.some.injEq] at h
      refine ⟨c :: cs.takeWhile isNamePart, cs.dropWhile isNamePart, ?_, ?_, ?_, ?_⟩
      · rw [List.cons_append, List.takeWhile_append_dropWhile]
      · rw [List.length_cons, ← h, Nat.add_comm]
        rfl
      · rw [isName, hstart, Bool.true_and, List.all_eq_true]
        exact fun d hd => List.mem_takeWhile_imp hd
      · rw [atNameEdge, Bool.not_eq_true']
        cases hdrop : cs.dropWhile isNamePart with
        | nil => rfl
        | cons d ds =>
          have hd := List.head_dropWhile_not isNamePart (l := cs) (by simp [hdrop])
          simpa [hdrop, startsIn] using hd
    · cases h

theorem isName_keyword (k : Keyword) : isName k.spelling.toList = true := by
  cases k <;> decide +kernel

end LoopBound.Grammar
