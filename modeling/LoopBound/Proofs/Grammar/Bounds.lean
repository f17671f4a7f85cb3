import LoopBound.Grammar.Token
import Mathlib.Data.List.Basic

/-!
# How much a token takes

A token never takes more than there is, and every token but layout takes something.
-/

namespace LoopBound.Grammar

open LoopBound.Text

/-! ## Pieces of text -/

theorem runLength_le (p : Char → Bool) (cs : List Char) : runLength p cs ≤ cs.length :=
  (List.takeWhile_prefix p).length_le

theorem spelled?_eq_some {word cs : List Char} {n : Nat} :
    spelled? word cs = some n ↔ word <+: cs ∧ n = word.length := by
  unfold spelled?
  split
  · rename_i h
    rw [List.isPrefixOf_iff_prefix] at h
    simp [h, eq_comm]
  · rename_i h
    rw [List.isPrefixOf_iff_prefix] at h
    simp [h]

theorem wordLength?_eq_some {word : String} {cs : List Char} {n : Nat} :
    wordLength? word cs = some n
      ↔ word.toList <+: cs ∧ n = word.toList.length ∧ atNameEdge (cs.drop n) = true := by
  rw [wordLength?, Option.filter_eq_some_iff, spelled?_eq_some, and_assoc]

theorem piecesLength_le {piece : List Char → Nat} (h : ∀ cs, piece cs ≤ cs.length)
    (fuel cs : List Char) : piecesLength piece fuel cs ≤ cs.length := by
  induction fuel generalizing cs with
  | nil => exact Nat.zero_le _
  | cons _ fuel ih =>
    rw [piecesLength]
    split
    · exact Nat.zero_le _
    · rename_i n hn
      have hpiece := h cs
      have hrest := ih (cs.drop (n + 1))
      rw [List.length_drop] at hrest
      omega

/-- Fuel that is as long as the text is enough. -/
theorem piecesLength_fuel {piece : List Char → Nat} (hle : ∀ cs, piece cs ≤ cs.length)
    {fuel fuel' cs : List Char} (h : cs.length ≤ fuel.length) (h' : cs.length ≤ fuel'.length) :
    piecesLength piece fuel cs = piecesLength piece fuel' cs := by
  induction fuel generalizing fuel' cs with
  | nil =>
    obtain rfl : cs = [] := List.eq_nil_of_length_eq_zero (Nat.le_zero.1 h)
    cases fuel' with
    | nil => rfl
    | cons _ fuel' => rw [piecesLength, piecesLength, Nat.le_zero.1 (hle [])]
  | cons _ fuel ih =>
    cases fuel' with
    | nil =>
      obtain rfl : cs = [] := List.eq_nil_of_length_eq_zero (Nat.le_zero.1 h')
      rw [piecesLength, piecesLength, Nat.le_zero.1 (hle [])]
    | cons _ fuel' =>
      rw [piecesLength, piecesLength]
      split
      · rfl
      · rename_i n hn
        have hpiece := hle cs
        rw [List.length_cons] at h h'
        rw [@ih fuel' (cs.drop (n + 1)) (by rw [List.length_drop]; omega)
          (by rw [List.length_drop]; omega)]

/-- Behind the pieces no further piece stands. -/
theorem piece_drop_piecesLength {piece : List Char → Nat} (hle : ∀ cs, piece cs ≤ cs.length)
    {fuel cs : List Char} (h : cs.length ≤ fuel.length) :
    piece (cs.drop (piecesLength piece fuel cs)) = 0 := by
  induction fuel generalizing cs with
  | nil =>
    obtain rfl : cs = [] := List.eq_nil_of_length_eq_zero (Nat.le_zero.1 h)
    exact Nat.le_zero.1 (hle [])
  | cons _ fuel ih =>
    rw [piecesLength]
    split
    · assumption
    · rename_i n hn
      have hpiece := hle cs
      rw [List.length_cons] at h
      rw [← List.drop_drop]
      exact ih (by rw [List.length_drop]; omega)

theorem drop_piecesLength_of_zero {piece : List Char → Nat} {cs : List Char} (h : piece cs = 0) :
    cs.drop (piecesLength piece cs cs) = cs := by
  cases cs with
  | nil => rfl
  | cons c cs =>
    rw [piecesLength, h]
    rfl

/-- A first piece may be taken by itself. -/
theorem drop_piecesLength {piece : List Char → Nat} (hle : ∀ cs, piece cs ≤ cs.length)
    (cs : List Char) : (cs.drop (piece cs)).drop
        (piecesLength piece (cs.drop (piece cs)) (cs.drop (piece cs)))
      = cs.drop (piecesLength piece cs cs) := by
  cases cs with
  | nil => simp
  | cons c cs =>
    have hpiece := hle (c :: cs)
    rw [piecesLength]
    cases hn : piece (c :: cs) with
    | zero => rw [List.drop_zero, piecesLength, hn]; rfl
    | succ n =>
      rw [hn, List.length_cons] at hpiece
      have hfuel : ((c :: cs).drop (n + 1)).length ≤ cs.length := by
        rw [List.length_drop, List.length_cons]
        omega
      rw [piecesLength_fuel hle (Nat.le_refl _) hfuel, List.drop_drop]

/-! ## Layout -/

theorem commentTail?_le {cs : List Char} {n : Nat} (h : commentTail? cs = some n) :
    n ≤ cs.length := by
  fun_induction commentTail? cs generalizing n with
  | case1 => simp at h
  | case2 =>
    rw [Option.some.injEq] at h
    simp only [List.length_cons]
    omega
  | case3 c cs _ ih =>
    obtain ⟨m, hm, rfl⟩ := Option.map_eq_some_iff.1 h
    exact Nat.succ_le_succ (ih hm)

theorem layoutPiece_le (cs : List Char) : layoutPiece cs ≤ cs.length := by
  fun_cases layoutPiece cs with
  | case1 => exact Nat.le_refl _
  | case2 cs =>
    have h := runLength_le (!isLineEnd ·) cs
    simp only [List.length_cons]
    omega
  | case3 cs =>
    cases h : commentTail? cs with
    | none => exact Nat.zero_le _
    | some n =>
      have hn := commentTail?_le h
      simp only [Option.map_some, Option.getD_some, List.length_cons]
      omega
  | case4 => simp
  | case5 => exact Nat.zero_le _

theorem layoutLength_le (cs : List Char) : layoutLength cs ≤ cs.length :=
  piecesLength_le layoutPiece_le cs cs

/-- Behind layout stands no further blank and no further comment. -/
theorem layoutPiece_drop_layoutLength (cs : List Char) :
    layoutPiece (cs.drop (layoutLength cs)) = 0 :=
  piece_drop_piecesLength layoutPiece_le (Nat.le_refl _)

theorem lineCommentTail?_le {cs : List Char} {n : Nat} (h : lineCommentTail? cs = some n) :
    n ≤ cs.length := by
  fun_induction lineCommentTail? cs generalizing n with
  | case1 => simp at h
  | case2 =>
    rw [Option.some.injEq] at h
    simp only [List.length_cons]
    omega
  | case3 => simp at h
  | case4 c cs _ _ ih =>
    obtain ⟨m, hm, rfl⟩ := Option.map_eq_some_iff.1 h
    exact Nat.succ_le_succ (ih hm)

theorem sameLinePiece_le (cs : List Char) : sameLinePiece cs ≤ cs.length := by
  fun_cases sameLinePiece cs with
  | case1 => exact Nat.le_refl _
  | case2 cs =>
    cases h : lineCommentTail? cs with
    | none => exact Nat.zero_le _
    | some n =>
      have hn := lineCommentTail?_le h
      simp only [Option.map_some, Option.getD_some, List.length_cons]
      omega
  | case3 => simp
  | case4 => exact Nat.zero_le _

theorem sameLineLength_le (cs : List Char) : sameLineLength cs ≤ cs.length :=
  piecesLength_le sameLinePiece_le cs cs

theorem length_pos_of_startsIn {p : Char → Bool} {cs : List Char} (h : startsIn p cs = true) :
    0 < cs.length := by
  cases cs with
  | nil => simp [startsIn] at h
  | cons => simp

theorem lineBreakLength?_bounds {cs : List Char} {n : Nat} (h : lineBreakLength? cs = some n) :
    0 < n ∧ n ≤ cs.length := by
  unfold lineBreakLength? at h
  simp only [Option.ite_none_right_eq_some, Option.some.injEq] at h
  obtain ⟨hstart, rfl⟩ := h
  have hpos := length_pos_of_startsIn hstart
  rw [List.length_drop] at hpos
  omega

/-! ## Names and literals -/

theorem nameLength?_bounds {cs : List Char} {n : Nat} (h : nameLength? cs = some n) :
    0 < n ∧ n ≤ cs.length := by
  cases cs with
  | nil => simp [nameLength?] at h
  | cons c cs =>
    rw [nameLength?] at h
    split at h
    · have hrun := runLength_le isNamePart cs
      rw [Option.some.injEq] at h
      simp only [List.length_cons]
      omega
    · simp at h

theorem stringTail?_bounds {quote : Char} {cs : List Char} {n : Nat}
    (h : stringTail? quote cs = some n) : 0 < n ∧ n ≤ cs.length := by
  fun_induction stringTail? quote cs generalizing n with
  | case1 => simp at h
  | case2 _ cs ih =>
    obtain ⟨m, hm, rfl⟩ := Option.map_eq_some_iff.1 h
    have := ih hm
    simp only [List.length_cons]
    omega
  | case3 =>
    rw [Option.some.injEq] at h
    simp only [List.length_cons]
    omega
  | case4 => simp at h
  | case5 c cs _ _ _ ih =>
    obtain ⟨m, hm, rfl⟩ := Option.map_eq_some_iff.1 h
    have := ih hm
    simp only [List.length_cons]
    omega

theorem stringLength?_bounds {cs : List Char} {n : Nat} (h : stringLength? cs = some n) :
    0 < n ∧ n ≤ cs.length := by
  unfold stringLength? at h
  split at h
  · obtain ⟨m, hm, rfl⟩ := Option.map_eq_some_iff.1 h
    exact ⟨Nat.succ_pos _, Nat.succ_le_succ (stringTail?_bounds hm).2⟩
  · obtain ⟨m, hm, rfl⟩ := Option.map_eq_some_iff.1 h
    exact ⟨Nat.succ_pos _, Nat.succ_le_succ (stringTail?_bounds hm).2⟩
  · simp at h

theorem regexTail?_le {bracketed : Bool} {cs : List Char} {n : Nat}
    (h : regexTail? bracketed cs = some n) : n ≤ cs.length := by
  fun_induction regexTail? bracketed cs generalizing n with
  | case1 => simp at h
  | case2 => simp at h
  | case3 _ c cs _ ih =>
    obtain ⟨m, hm, rfl⟩ := Option.map_eq_some_iff.1 h
    exact Nat.succ_le_succ (Nat.succ_le_succ (ih hm))
  | case4 => simp at h
  | case5 c cs _ _ ih =>
    obtain ⟨m, hm, rfl⟩ := Option.map_eq_some_iff.1 h
    exact Nat.succ_le_succ (ih hm)
  | case6 => simp_all
  | case7 b c cs _ _ _ _ ih =>
    obtain ⟨m, hm, rfl⟩ := Option.map_eq_some_iff.1 h
    exact Nat.succ_le_succ (ih hm)

theorem regexLength?_bounds {cs : List Char} {n : Nat} (h : regexLength? cs = some n) :
    0 < n ∧ n ≤ cs.length := by
  unfold regexLength? at h
  split at h
  · rename_i cs
    split at h
    · simp at h
    · obtain ⟨m, hm, rfl⟩ := Option.map_eq_some_iff.1 h
      have htail := regexTail?_le hm
      have hflags := runLength_le isAsciiLetter (cs.drop m)
      rw [List.length_drop] at hflags
      simp only [List.length_cons]
      omega
  · simp at h

theorem templateLength_le (cs : List Char) : templateLength cs ≤ cs.length := by
  fun_induction templateLength cs with
  | case1 => exact Nat.le_refl _
  | case2 _ cs ih =>
    simp only [List.length_cons]
    omega
  | case3 => exact Nat.zero_le _
  | case4 => exact Nat.zero_le _
  | case5 c cs _ _ _ ih =>
    simp only [List.length_cons]
    omega

/-! ## Numbers -/

theorem radixLengths_bounds {lower upper : Char} {digit : Char → Bool} {cs : List Char} {n : Nat}
    (h : n ∈ radixLengths lower upper digit cs) : 0 < n ∧ n ≤ cs.length := by
  unfold radixLengths at h
  split at h
  · rename_i mark cs
    simp only at h
    split at h
    · rw [List.mem_singleton] at h
      have hrun := runLength_le (fun c => digit c || c == '_') cs
      simp only [List.length_cons]
      omega
    · simp at h
  · simp at h

theorem exponentLength_le (cs : List Char) : exponentLength cs ≤ cs.length := by
  unfold exponentLength
  split
  · rename_i e cs
    generalize (if startsIn (fun c => c == '+' || c == '-') cs then 1 else 0) = sign
    simp only
    split
    · rename_i h
      rw [Bool.and_eq_true] at h
      have hpos := length_pos_of_startsIn h.2
      have hrun := runLength_le isDigitPart (cs.drop sign)
      rw [List.length_drop] at hpos hrun
      simp only [List.length_cons]
      omega
    · exact Nat.zero_le _
  · exact Nat.zero_le _

theorem withExponent_bounds {cs : List Char} {n m : Nat} (hn : 0 < n) (hle : n ≤ cs.length)
    (h : m ∈ withExponent cs n) : 0 < m ∧ m ≤ cs.length := by
  unfold withExponent at h
  have hexp := exponentLength_le (cs.drop n)
  rw [List.length_drop] at hexp
  split at h
  · rw [List.mem_singleton] at h
    omega
  · rename_i e he
    rw [List.mem_cons, List.mem_singleton] at h
    omega

theorem runLength_pos_of_startsIn {p q : Char → Bool} {cs : List Char}
    (h : startsIn p cs = true) (hpq : ∀ c, p c = true → q c = true) : 0 < runLength q cs := by
  cases cs with
  | nil => simp [startsIn] at h
  | cons c cs => simp [runLength, hpq c h]

theorem isDigitPart_of_isScriptDigit {c : Char} (h : isScriptDigit c = true) :
    isDigitPart c = true := by
  simp [isDigitPart, h]

theorem decimalLengths_bounds {cs : List Char} {n : Nat} (h : n ∈ decimalLengths cs) :
    0 < n ∧ n ≤ cs.length := by
  unfold decimalLengths at h
  split at h
  · rename_i hstart
    have hpos : 0 < runLength isDigitPart cs :=
      runLength_pos_of_startsIn hstart fun _ => isDigitPart_of_isScriptDigit
    have hle := runLength_le isDigitPart cs
    simp only at h
    split at h
    · rename_i hdot
      have hdrop := length_pos_of_startsIn hdot
      have hrun := runLength_le isDigitPart (cs.drop (runLength isDigitPart cs + 1))
      rw [List.length_drop] at hdrop hrun
      rcases List.mem_append.1 h with h | h
      · exact withExponent_bounds (by omega) (by omega) h
      · rw [List.mem_singleton] at h
        omega
    · exact withExponent_bounds hpos hle h
  · split at h
    · split at h
      · rename_i fraction _ _
        have hrun := runLength_le isDigitPart fraction
        exact withExponent_bounds (by omega) (by simp only [List.length_cons]; omega) h
      · simp at h
    · simp at h

/-- The readings of a number, before the suffix of big numbers and what follows are looked at. -/
def numberReadings (cs : List Char) : List Nat :=
  radixLengths 'x' 'X' isHexDigit cs ++ radixLengths 'o' 'O' isOctalDigit cs ++
    radixLengths 'b' 'B' isBinaryDigit cs ++ decimalLengths cs

/-- A reading with the suffix of big numbers, if there is one, and without. -/
def withSuffix (cs : List Char) (n : Nat) : List Nat :=
  if startsIn (· == 'n') (cs.drop n) then [n + 1, n] else [n]

theorem numberLength?_eq (cs : List Char) : numberLength? cs
    = ((numberReadings cs).flatMap (withSuffix cs)).find? fun n => atNameEdge (cs.drop n) := rfl

theorem numberReadings_bounds {cs : List Char} {n : Nat} (h : n ∈ numberReadings cs) :
    0 < n ∧ n ≤ cs.length := by
  rw [numberReadings, List.mem_append, List.mem_append, List.mem_append] at h
  rcases h with ((h | h) | h) | h
  · exact radixLengths_bounds h
  · exact radixLengths_bounds h
  · exact radixLengths_bounds h
  · exact decimalLengths_bounds h

theorem numberLength?_bounds {cs : List Char} {n : Nat} (h : numberLength? cs = some n) :
    0 < n ∧ n ≤ cs.length := by
  rw [numberLength?_eq] at h
  obtain ⟨m, hm, hn⟩ := List.mem_flatMap.1 (List.mem_of_find?_eq_some h)
  have hbounds := numberReadings_bounds hm
  unfold withSuffix at hn
  split at hn
  · rename_i hsuffix
    have hdrop := length_pos_of_startsIn hsuffix
    rw [List.length_drop] at hdrop
    rw [List.mem_cons, List.mem_singleton] at hn
    omega
  · rw [List.mem_singleton] at hn
    omega

/-! ## Operators -/

theorem firstSpelling?_eq_some {spellings : List Spelling} {cs : List Char} {n : Nat}
    (h : firstSpelling? spellings cs = some n) :
    ∃ s ∈ spellings, s.text <+: cs ∧ n = s.text.length ∧ s.behind (cs.drop n) = true := by
  obtain ⟨s, hs, hn⟩ := List.exists_of_findSome?_eq_some h
  rw [Option.filter_eq_some_iff, spelled?_eq_some] at hn
  exact ⟨s, hs, hn.1.1, hn.1.2, hn.2⟩

theorem firstSpelling?_bounds {spellings : List Spelling} {cs : List Char} {n : Nat}
    (hne : spellings.all (fun s => !s.text.isEmpty) = true)
    (h : firstSpelling? spellings cs = some n) : 0 < n ∧ n ≤ cs.length := by
  obtain ⟨s, hs, hfront, rfl, -⟩ := firstSpelling?_eq_some h
  have hs := List.all_eq_true.1 hne s hs
  refine ⟨List.length_pos_iff.2 fun he => ?_, hfront.length_le⟩
  simp [he] at hs

/-! ## Tokens -/

/-- The tokens that may take nothing. -/
def Token.mayBeEmpty : Token → Bool
  | .layout | .sameLine => true
  | _ => false

theorem Keyword.spelling_pos (k : Keyword) : 0 < k.spelling.toList.length := by
  cases k <;> decide

theorem wordLength?_bounds {word : String} {cs : List Char} {n : Nat}
    (hword : 0 < word.toList.length) (h : wordLength? word cs = some n) :
    0 < n ∧ n ≤ cs.length := by
  obtain ⟨hfront, rfl, -⟩ := wordLength?_eq_some.1 h
  exact ⟨hword, hfront.length_le⟩

theorem findSome?_wordLength?_bounds {words : List String} {cs : List Char} {n : Nat}
    (hwords : words.all (fun w => 0 < w.toList.length) = true)
    (h : words.findSome? (wordLength? · cs) = some n) : 0 < n ∧ n ≤ cs.length := by
  obtain ⟨w, hw, hn⟩ := List.exists_of_findSome?_eq_some h
  exact wordLength?_bounds (by simpa using List.all_eq_true.1 hwords w hw) hn

/-- A token takes no more than there is, and something unless it is layout. -/
theorem Token.length?_bounds {t : Token} {cs : List Char} {n : Nat} (h : t.length? cs = some n) :
    n ≤ cs.length ∧ (n = 0 → t.mayBeEmpty = true) := by
  have of_bounds {t : Token} (hn : 0 < n ∧ n ≤ cs.length) :
      n ≤ cs.length ∧ (n = 0 → t.mayBeEmpty = true) :=
    ⟨hn.2, fun h0 => absurd h0 (Nat.ne_of_gt hn.1)⟩
  cases t with
  | layout =>
    rw [Token.length?, Option.some.injEq] at h
    exact ⟨h ▸ layoutLength_le cs, fun _ => rfl⟩
  | sameLine =>
    rw [Token.length?, Option.some.injEq] at h
    exact ⟨h ▸ sameLineLength_le cs, fun _ => rfl⟩
  | lineBreak => exact of_bounds (lineBreakLength?_bounds h)
  | anyCharacter =>
    rw [Token.length?] at h
    cases cs with
    | nil => simp at h
    | cons c cs =>
      simp only [List.isEmpty_cons, Bool.false_eq_true, if_false, Option.some.injEq] at h
      exact of_bounds ⟨h ▸ Nat.one_pos, h ▸ Nat.succ_pos _⟩
  | keyword k => exact of_bounds (wordLength?_bounds k.spelling_pos h)
  | reservedWord => exact of_bounds (findSome?_wordLength?_bounds (by decide) h)
  | thisWord => exact of_bounds (wordLength?_bounds (by decide) h)
  | superWord => exact of_bounds (wordLength?_bounds (by decide) h)
  | wordLiteral => exact of_bounds (findSome?_wordLength?_bounds (by decide) h)
  | name => exact of_bounds (nameLength?_bounds h)
  | privateName =>
    simp only [Token.length?] at h
    split at h
    · obtain ⟨m, hm, rfl⟩ := Option.map_eq_some_iff.1 h
      exact of_bounds ⟨Nat.succ_pos _, Nat.succ_le_succ (nameLength?_bounds hm).2⟩
    · simp at h
  | number => exact of_bounds (numberLength?_bounds h)
  | string => exact of_bounds (stringLength?_bounds h)
  | regex => exact of_bounds (regexLength?_bounds h)
  | templateText =>
    have hle := templateLength_le cs
    simp only [Token.length?] at h
    split at h
    · simp at h
    · rename_i m hm
      rw [Option.some.injEq] at h
      exact of_bounds (by omega)
  | assignmentOperator => exact of_bounds (firstSpelling?_bounds (by decide) h)
  | binaryOperator => exact of_bounds (firstSpelling?_bounds (by decide) h)
  | prefixOperator => exact of_bounds (firstSpelling?_bounds (by decide) h)
  | postfixOperator => exact of_bounds (firstSpelling?_bounds (by decide) h)
  | dot => exact of_bounds (firstSpelling?_bounds (by decide) h)
  | optionalDot => exact of_bounds (firstSpelling?_bounds (by decide) h)

end LoopBound.Grammar
