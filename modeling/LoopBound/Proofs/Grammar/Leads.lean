import LoopBound.Proofs.Grammar.Characters
import LoopBound.Proofs.Grammar.Ends

/-!
# What the front of a text decides

Most alternatives of a rule are ruled out by the first character or the first word of a text. A
`Lead` is such knowledge of the front, and `Rule.answer` computes what it decides: that a rule
refuses, matches nothing, or matches. Facts about concrete rules are then settled by evaluation.
-/

namespace LoopBound.Grammar

open LoopBound.Text

/-- What is known of a match before it is tried. -/
inductive Answer where
  | refuses | nothing | taken | unknown
  deriving DecidableEq

/-- What is known of the front of a text. -/
inductive Lead where
  /-- It begins with this character. -/
  | mark (c : Char)
  /-- It begins with this whole word. -/
  | word (s : String)
  /-- It begins with a name that is no word of the grammar. -/
  | plain
  /-- It begins with two dots. -/
  | dots
  /-- It begins with a blank. -/
  | blank
  deriving DecidableEq

/-- All words of the grammar. -/
def grammarWords : List String :=
  reservedWords ++ ["async", "get", "of", "set", "static"]

namespace Lead

/-- The text begins so. -/
def Begins : Lead → List Char → Prop
  | mark c, cs => ∃ rest, cs = c :: rest
  | word s, cs => isName s.toList = true ∧ ∃ rest, cs = s.toList ++ rest ∧ atNameEdge rest = true
  | plain, cs => ∃ x rest, cs = x ++ rest ∧ isName x = true ∧ atNameEdge rest = true ∧
      ∀ w ∈ grammarWords, x ≠ w.toList
  | dots, cs => ∃ rest, cs = '.' :: '.' :: rest
  | blank, cs => ∃ c rest, cs = c :: rest ∧ isBlank c = true

/-- The text may begin with this character. -/
def may : Lead → Char → Bool
  | mark d, c => c == d
  | word s, c => isNameStart c && s.toList.head? == some c
  | plain, c => isNameStart c
  | dots, c => c == '.'
  | blank, c => isBlank c

/-- Neither a blank nor a comment stands in front. -/
def isTight : Lead → Bool
  | mark c => !isBlank c && c != '/'
  | blank => false
  | _ => true

/-- What is known of a text in front. -/
def askText (l : Lead) : List Char → Answer
  | [] => .nothing
  | c :: _ => if l.may c then .unknown else .refuses

/-- What is known of a whole word in front. -/
def askWord (l : Lead) (w : String) : Answer :=
  match l with
  | word s => if s = w then .taken else if isName w.toList then .refuses else .unknown
  | plain => if w ∈ grammarWords then .refuses else .unknown
  | _ => if w.toList.head?.any (!l.may ·) then .refuses else .unknown

/-- What is known of one of these words in front. -/
def askWords (l : Lead) (ws : List String) : Answer :=
  if ws.all fun w => l.askWord w = .refuses then .refuses
  else if ws.any fun w => l.askWord w = .taken then .taken
  else .unknown

/-- None of the spellings can stand in front. -/
def rulesOut (l : Lead) (spellings : List Spelling) : Bool :=
  spellings.all fun s => s.text.head?.any (!l.may ·)

/-- What is known of a token in front. -/
def askToken (l : Lead) : Token → Answer
  | .layout => if l.isTight then .nothing else .unknown
  | .sameLine => if l.isTight then .nothing else .unknown
  | .lineBreak => if l.isTight then .refuses else .unknown
  | .anyCharacter => .taken
  | .keyword k => l.askWord k.spelling
  | .reservedWord => l.askWords reservedWords
  | .thisWord => l.askWord "this"
  | .superWord => l.askWord "super"
  | .wordLiteral => l.askWords ["true", "false", "null"]
  | .name =>
    match l with
    | mark c => if isNameStart c then .unknown else .refuses
    | dots | blank => .refuses
    | word _ | plain => .taken
  | .privateName => if l.may '#' then .unknown else .refuses
  | .number =>
    match l with
    | mark c => if isScriptDigit c || c == '.' then .unknown else .refuses
    | _ => .refuses
  | .string => if l.may '"' || l.may '\'' then .unknown else .refuses
  | .regex => if l.may '/' then .unknown else .refuses
  | .templateText => if l = mark '\x60' then .refuses else .unknown
  | .assignmentOperator => if l.rulesOut assignmentSpellings then .refuses else .unknown
  | .binaryOperator =>
    if l.rulesOut (binarySpellings.filter fun s => !s.text.all isNamePart) &&
        l.askWords ["in", "instanceof"] = .refuses then .refuses else .unknown
  | .prefixOperator =>
    if l.rulesOut (prefixSpellings.filter fun s => !s.text.all isNamePart) &&
        l.askWords ["typeof", "void", "delete"] = .refuses then .refuses else .unknown
  | .postfixOperator => if l.rulesOut postfixSpellings then .refuses else .unknown
  | .dot => if l.rulesOut dotSpellings then .refuses else .unknown
  | .optionalDot => if l.rulesOut optionalDotSpellings then .refuses else .unknown

end Lead

/-- What is known of a pattern in front, from what is known of the rules. -/
def Pattern.answer (l : Lead) (known : Rule → Answer) : Pattern → Answer
  | text w => l.askText w
  | token t => l.askToken t
  | rule r => known r
  | drop p => p.answer l known
  | empty => .nothing
  | both p q =>
    match p.answer l known with
    | .refuses => .refuses
    | .nothing => q.answer l known
    | _ => .unknown
  | either p q =>
    match p.answer l known with
    | .refuses => q.answer l known
    | a => a
  | optional p =>
    match p.answer l known with
    | .refuses => .nothing
    | a => a
  | many p =>
    match p.answer l known with
    | .refuses => .nothing
    | _ => .unknown
  | absent p =>
    match p.answer l known with
    | .refuses => .nothing
    | .unknown => .unknown
    | _ => .refuses

/-- What is known of a rule in front, found by looking into rules so many levels deep. -/
def Rule.answer (l : Lead) : Nat → Rule → Answer
  | 0, _ => .unknown
  | n + 1, r => r.pattern.answer l (Rule.answer l n)

/-- What is known of a pattern in front. -/
def Pattern.ask (l : Lead) (p : Pattern) : Answer :=
  p.answer l (Rule.answer l 40)

/-! ## Answers are right -/

/-- An answer agrees with the number of characters that are taken. -/
def Answer.Agrees : Answer → Option Nat → Prop
  | refuses, n => n = none
  | nothing, n => n = some 0
  | taken, n => ∃ k, n = some k
  | unknown, _ => True

namespace Lead

variable {l : Lead} {cs : List Char}

theorem exists_name (h : l.Begins cs) (hl : l = plain ∨ ∃ s, l = word s) :
    ∃ x rest, cs = x ++ rest ∧ isName x = true ∧ atNameEdge rest = true := by
  rcases hl with rfl | ⟨s, rfl⟩
  · obtain ⟨x, rest, he, hx, hrest, -⟩ := h
    exact ⟨x, rest, he, hx, hrest⟩
  · obtain ⟨hs, rest, he, hrest⟩ := h
    exact ⟨s.toList, rest, he, hs, hrest⟩

theorem exists_first (h : l.Begins cs) : ∃ c rest, cs = c :: rest ∧ l.may c = true := by
  cases l with
  | mark c =>
    obtain ⟨rest, rfl⟩ := h
    exact ⟨c, rest, rfl, by simp [may]⟩
  | word s =>
    obtain ⟨hs, rest, rfl, -⟩ := h
    cases hlist : s.toList with
    | nil => simp [hlist, isName] at hs
    | cons c x =>
      rw [hlist, isName, Bool.and_eq_true] at hs
      exact ⟨c, x ++ rest, rfl, by simp [may, hlist, hs.1]⟩
  | plain =>
    obtain ⟨x, rest, rfl, hx, -⟩ := h
    cases x with
    | nil => cases hx
    | cons c x =>
      rw [isName, Bool.and_eq_true] at hx
      exact ⟨c, x ++ rest, rfl, hx.1⟩
  | dots =>
    obtain ⟨rest, rfl⟩ := h
    exact ⟨'.', '.' :: rest, rfl, by simp [may]⟩
  | blank =>
    obtain ⟨c, rest, rfl, hc⟩ := h
    exact ⟨c, rest, rfl, hc⟩

/-- The first character of a text with a tight lead. -/
theorem tight_first (h : l.Begins cs) (ht : l.isTight = true) :
    ∃ c rest, cs = c :: rest ∧ isBlank c = false ∧ c ≠ '/' := by
  obtain ⟨c, rest, rfl, hc⟩ := exists_first h
  have hname : isNamePart c = true → isBlank c = false ∧ c ≠ '/' := by
    intro hn
    refine ⟨isBlank_of_isNamePart hn, ?_⟩
    rintro rfl
    exact absurd hn (by decide)
  refine ⟨c, rest, rfl, ?_⟩
  cases l with
  | mark d =>
    obtain rfl : c = d := beq_iff_eq.1 hc
    obtain ⟨hblank, hslash⟩ := Bool.and_eq_true_iff.1 ht
    rw [Bool.not_eq_true'] at hblank
    exact ⟨hblank, bne_iff_ne.1 hslash⟩
  | word s =>
    rw [may, Bool.and_eq_true] at hc
    exact hname (isNamePart_of_isNameStart hc.1)
  | plain => exact hname (isNamePart_of_isNameStart hc)
  | dots =>
    rw [may, beq_iff_eq] at hc
    subst hc
    exact ⟨by decide, by decide⟩
  | blank => cases ht

theorem askText_agrees (h : l.Begins cs) (w : List Char) :
    (l.askText w).Agrees (spelled? w cs) := by
  cases w with
  | nil => simp [askText, Answer.Agrees, spelled?]
  | cons d ds =>
    rw [askText]
    split
    · trivial
    · rename_i hno
      show spelled? (d :: ds) cs = none
      rw [Option.eq_none_iff_forall_ne_some]
      intro n hn
      obtain ⟨⟨rest, hrest⟩, -⟩ := spelled?_eq_some.1 hn
      obtain ⟨c, rest', rfl, hc⟩ := exists_first h
      rw [List.cons_append, List.cons.injEq] at hrest
      rw [hrest.1] at hno
      exact hno hc

theorem wordLength?_of_name {w : String} {x rest : List Char} (hw : isName w.toList = true)
    (hx : isName x = true) (hrest : atNameEdge rest = true) (hne : x ≠ w.toList) :
    wordLength? w (x ++ rest) = none := by
  rw [Option.eq_none_iff_forall_ne_some]
  intro n hn
  obtain ⟨⟨rest', hrest'⟩, rfl, hedge⟩ := wordLength?_eq_some.1 hn
  rw [← hrest', List.drop_left] at hedge
  exact hne (run_unique (isNamePart_of_mem_name hx) (isNamePart_of_mem_name hw) hrest hedge
    hrest'.symm).1

theorem isName_grammarWords {w : String} (h : w ∈ grammarWords) : isName w.toList = true := by
  have hall : grammarWords.all (fun w => isName w.toList) = true := by decide
  exact List.all_eq_true.1 hall w h

/-- A text that cannot begin with the first character of a word does not begin with the word. -/
theorem not_prefix_of_ruledOut (h : l.Begins cs) {w : List Char}
    (hw : w.head?.any (!l.may ·) = true) : ¬ w <+: cs := by
  rintro ⟨rest, hrest⟩
  obtain ⟨c, rest', rfl, hc⟩ := exists_first h
  cases w with
  | nil => cases hw
  | cons d ds =>
    rw [List.cons_append, List.cons.injEq] at hrest
    obtain ⟨rfl, -⟩ := hrest
    simp [hc] at hw

theorem wordLength?_of_ruledOut (h : l.Begins cs) {w : String}
    (hw : w.toList.head?.any (!l.may ·) = true) : wordLength? w cs = none := by
  rw [Option.eq_none_iff_forall_ne_some]
  intro n hn
  exact not_prefix_of_ruledOut h hw (wordLength?_eq_some.1 hn).1

/-- What is refused on a condition is refused rightly if the condition says so. -/
theorem agrees_refuses_if {b : Bool} {n : Option Nat} (hb : b = true → n = none) :
    (if b then Answer.refuses else .unknown).Agrees n := by
  split
  · rename_i ht
    exact hb ht
  · trivial

theorem agrees_refuses_unless {b : Bool} {n : Option Nat} (hb : b = false → n = none) :
    (if b then Answer.unknown else .refuses).Agrees n := by
  split
  · trivial
  · rename_i hf
    exact hb (Bool.eq_false_iff.2 hf)

theorem askWord_agrees (h : l.Begins cs) (w : String) :
    (l.askWord w).Agrees (wordLength? w cs) := by
  cases l with
  | mark c => exact agrees_refuses_if (wordLength?_of_ruledOut h)
  | dots => exact agrees_refuses_if (wordLength?_of_ruledOut h)
  | blank => exact agrees_refuses_if (wordLength?_of_ruledOut h)
  | word s =>
    obtain ⟨hs, rest, rfl, hrest⟩ := h
    unfold askWord
    simp only
    split
    · rename_i he
      refine ⟨w.toList.length, wordLength?_eq_some.2 ⟨?_, rfl, ?_⟩⟩
      · rw [he]
        exact List.prefix_append _ _
      · rw [he, List.drop_left]
        exact hrest
    · rename_i hne
      split
      · rename_i hw
        exact wordLength?_of_name hw hs hrest fun he => hne (String.toList_inj.1 he)
      · trivial
  | plain =>
    obtain ⟨x, rest, rfl, hx, hrest, hne⟩ := h
    unfold askWord
    simp only
    split
    · rename_i hw
      exact wordLength?_of_name (isName_grammarWords hw) hx hrest (hne w hw)
    · trivial

theorem askWords_agrees (h : l.Begins cs) (ws : List String) :
    (l.askWords ws).Agrees (ws.findSome? (wordLength? · cs)) := by
  unfold askWords
  split
  · rename_i hall
    show ws.findSome? (wordLength? · cs) = none
    rw [List.findSome?_eq_none_iff]
    intro w hw
    have hagrees := askWord_agrees h w
    rwa [of_decide_eq_true (List.all_eq_true.1 hall w hw)] at hagrees
  · split
    · rename_i hany
      obtain ⟨w, hw, htaken⟩ := List.any_eq_true.1 hany
      have hagrees := askWord_agrees h w
      rw [of_decide_eq_true htaken] at hagrees
      obtain ⟨k, hk⟩ := hagrees
      show ∃ k, ws.findSome? (wordLength? · cs) = some k
      rw [← Option.isSome_iff_exists, List.isSome_findSome?]
      exact List.any_eq_true.2 ⟨w, hw, by rw [hk]; rfl⟩
    · trivial

theorem layoutLength_of_tight {c : Char} {rest : List Char} (hc : isBlank c = false)
    (hslash : c ≠ '/') : layoutLength (c :: rest) = 0 := by
  have hpiece : layoutPiece (c :: rest) = 0 := by
    unfold layoutPiece
    split <;> simp_all
  rw [layoutLength, piecesLength, hpiece]

theorem sameLineLength_of_tight {c : Char} {rest : List Char} (hc : isBlank c = false)
    (hslash : c ≠ '/') : sameLineLength (c :: rest) = 0 := by
  have hblank : isLineBlank c = false := by
    rw [Bool.eq_false_iff]
    intro hb
    rw [isBlank_of_isLineBlank hb] at hc
    cases hc
  have hpiece : sameLinePiece (c :: rest) = 0 := by
    unfold sameLinePiece
    split <;> simp_all
  rw [sameLineLength, piecesLength, hpiece]

theorem lineBreakLength?_of_tight {c : Char} {rest : List Char} (hc : isBlank c = false)
    (hslash : c ≠ '/') : lineBreakLength? (c :: rest) = none := by
  have hend : isLineEnd c = false := by
    rw [Bool.eq_false_iff]
    intro he
    rw [isBlank_of_isLineEnd he] at hc
    cases hc
  unfold lineBreakLength?
  split
  · simp_all
  · simp [startsIn, hend]

theorem numberLength?_of_first {c : Char} {rest : List Char} (hd : isScriptDigit c = false)
    (hdot : c ≠ '.') : numberLength? (c :: rest) = none := by
  have hzero : c ≠ '0' := by
    rintro rfl
    exact absurd hd (by decide)
  have hradix (lower upper : Char) (digit : Char → Bool) :
      radixLengths lower upper digit (c :: rest) = [] := by
    unfold radixLengths
    split
    · simp_all
    · rfl
  have hdecimal : decimalLengths (c :: rest) = [] := by
    unfold decimalLengths
    rw [if_neg (by simp [startsIn, hd])]
    split
    · simp_all
    · rfl
  rw [numberLength?_eq, numberReadings, hradix, hradix, hradix, hdecimal]
  rfl

theorem numberLength?_of_dots (rest : List Char) : numberLength? ('.' :: '.' :: rest) = none := by
  have hdecimal : decimalLengths ('.' :: '.' :: rest) = [] := by
    have hdot : isScriptDigit '.' = false := by decide
    simp [decimalLengths, startsIn, hdot]
  rw [numberLength?_eq, numberReadings, hdecimal]
  rfl

theorem firstSpelling?_eq_none {spellings : List Spelling}
    (h : ∀ s ∈ spellings, ∀ n, spelled? s.text cs = some n → s.behind (cs.drop n) = false) :
    firstSpelling? spellings cs = none := by
  rw [firstSpelling?, List.findSome?_eq_none_iff]
  intro s hs
  rw [Option.filter_eq_none_iff]
  intro n hn
  simp [h s hs n hn]

theorem spelled?_of_ruledOut (h : l.Begins cs) {s : Spelling}
    (hs : s.text.head?.any (!l.may ·) = true) : spelled? s.text cs = none := by
  rw [Option.eq_none_iff_forall_ne_some]
  intro n hn
  exact not_prefix_of_ruledOut h hs (spelled?_eq_some.1 hn).1

theorem firstSpelling?_of_rulesOut (h : l.Begins cs) {spellings : List Spelling}
    (hout : l.rulesOut spellings = true) : firstSpelling? spellings cs = none :=
  firstSpelling?_eq_none fun s hs n hn => by
    rw [spelled?_of_ruledOut h (List.all_eq_true.1 hout s hs)] at hn
    cases hn

/-- Spellings are ruled out one by one: marks by their first character, words as words. -/
theorem firstSpelling?_of_words (h : l.Begins cs) {spellings : List Spelling} {ws : List String}
    (hmarks : l.rulesOut (spellings.filter fun s => !s.text.all isNamePart) = true)
    (hwords : l.askWords ws = .refuses)
    (hsplit : ∀ s ∈ spellings, s.text.all isNamePart = true →
      (∃ w ∈ ws, w.toList = s.text) ∧ ∀ ds, s.behind ds = true → atNameEdge ds = true) :
    firstSpelling? spellings cs = none := by
  refine firstSpelling?_eq_none fun s hs n hn => ?_
  by_cases hall : s.text.all isNamePart = true
  · obtain ⟨⟨w, hw, htext⟩, hbehind⟩ := hsplit s hs hall
    rw [Bool.eq_false_iff]
    intro hb
    have hnone := askWords_agrees h ws
    rw [hwords] at hnone
    have hw := List.findSome?_eq_none_iff.1 hnone w hw
    have hlen := spelled?_eq_some.1 hn
    rw [wordLength?, htext, hn, Option.filter_some, if_pos (hbehind _ hb)] at hw
    cases hw
  · have hmem : s ∈ spellings.filter fun s => !s.text.all isNamePart :=
      List.mem_filter.2 ⟨hs, by simpa using hall⟩
    rw [spelled?_of_ruledOut h (List.all_eq_true.1 hmarks s hmem)] at hn
    cases hn

theorem not_mem_spellings {ts : List String} {behind : List Char → Bool} {s : Spelling}
    (hts : ts.all (fun t => !t.toList.all isNamePart) = true)
    (hall : s.text.all isNamePart = true) : s ∉ spellings ts behind := by
  intro hs
  obtain ⟨t, ht, rfl⟩ := List.mem_map.1 hs
  have hno := List.all_eq_true.1 hts t ht
  rw [Bool.not_eq_true'] at hno
  rw [hno] at hall
  cases hall

theorem mem_of_mem_binarySpellings {s : Spelling} (hs : s ∈ binarySpellings)
    (hall : s.text.all isNamePart = true) : s ∈ spellings ["instanceof", "in"]
      (fun cs => atNameEdge cs && !startsIn (· == '=') cs) := by
  rw [binarySpellings, List.mem_append, List.mem_append, List.mem_append, List.mem_append] at hs
  rcases hs with (((hs | hs) | hs) | hs) | hs
  · exact absurd hs (not_mem_spellings (by decide) hall)
  · exact hs
  · exact absurd hs (not_mem_spellings (by decide) hall)
  · exact absurd hs (not_mem_spellings (by decide) hall)
  · exact absurd hs (not_mem_spellings (by decide) hall)

theorem mem_of_mem_prefixSpellings {s : Spelling} (hs : s ∈ prefixSpellings)
    (hall : s.text.all isNamePart = true) :
    s ∈ spellings ["typeof", "void", "delete"] atNameEdge := by
  rw [prefixSpellings, List.mem_append, List.mem_append] at hs
  rcases hs with (hs | hs) | hs
  · exact absurd hs (not_mem_spellings (by decide) hall)
  · exact hs
  · exact absurd hs (not_mem_spellings (by decide) hall)

/-! ## Tokens -/

theorem isNameStart_of_isBlank {c : Char} (h : isBlank c = true) : isNameStart c = false := by
  rw [Bool.eq_false_iff]
  intro hs
  rw [isBlank_of_isNamePart (isNamePart_of_isNameStart hs)] at h
  cases h

theorem isScriptDigit_of_isBlank {c : Char} (h : isBlank c = true) : isScriptDigit c = false := by
  rw [Bool.eq_false_iff]
  intro hd
  rw [isBlank_of_isNamePart (isNamePart_of_isScriptDigit hd)] at h
  cases h

theorem isScriptDigit_of_isNameStart {c : Char} (h : isNameStart c = true) :
    isScriptDigit c = false := by
  rw [Bool.eq_false_iff]
  intro hd
  rw [not_isNameStart_of_isScriptDigit hd] at h
  cases h

theorem askName_agrees (h : l.Begins cs) : (l.askToken .name).Agrees (nameLength? cs) := by
  have of_name (hl : l = plain ∨ ∃ s, l = word s) : Answer.taken.Agrees (nameLength? cs) := by
    obtain ⟨x, rest, rfl, hx, hrest⟩ := exists_name h hl
    exact ⟨_, nameLength?_append hx hrest⟩
  cases l with
  | mark d =>
    refine agrees_refuses_unless fun hd => ?_
    obtain ⟨rest, rfl⟩ := h
    simp [nameLength?, hd]
  | dots =>
    obtain ⟨rest, rfl⟩ := h
    rfl
  | blank =>
    obtain ⟨d, rest, rfl, hd⟩ := h
    simp [askToken, Answer.Agrees, nameLength?, isNameStart_of_isBlank hd]
  | word s => exact of_name (.inr ⟨s, rfl⟩)
  | plain => exact of_name (.inl rfl)

theorem askNumber_agrees (h : l.Begins cs) : (l.askToken .number).Agrees (numberLength? cs) := by
  obtain ⟨c, rest, hfirst, hc⟩ := exists_first h
  have of_first (hd : isScriptDigit c = false) (hdot : c ≠ '.') : numberLength? cs = none := by
    rw [hfirst]
    exact numberLength?_of_first hd hdot
  have of_start (hs : isNameStart c = true) : numberLength? cs = none := by
    refine of_first (isScriptDigit_of_isNameStart hs) ?_
    rintro rfl
    exact absurd hs (by decide)
  cases l with
  | mark d =>
    refine agrees_refuses_unless fun hd => ?_
    obtain rfl : c = d := beq_iff_eq.1 hc
    rw [Bool.or_eq_false_iff] at hd
    exact of_first hd.1 (by simpa using hd.2)
  | dots =>
    obtain ⟨rest', rfl⟩ := h
    exact numberLength?_of_dots rest'
  | blank =>
    refine of_first (isScriptDigit_of_isBlank hc) ?_
    rintro rfl
    exact absurd hc (by decide)
  | word s =>
    rw [may, Bool.and_eq_true] at hc
    exact of_start hc.1
  | plain => exact of_start hc

theorem ne_of_may_eq_false {c d : Char} (hc : l.may c = true) (hd : l.may d = false) : c ≠ d := by
  rintro rfl
  rw [hc] at hd
  cases hd

theorem privateNameLength?_of_first {c : Char} {rest : List Char} (h : c ≠ '#') :
    Token.privateName.length? (c :: rest) = none := by
  simp only [Token.length?]
  split
  · simp_all
  · rfl

theorem stringLength?_of_first {c : Char} {rest : List Char} (hdouble : c ≠ '"')
    (hsingle : c ≠ '\'') : stringLength? (c :: rest) = none := by
  unfold stringLength?
  split
  · simp_all
  · simp_all
  · rfl

theorem regexLength?_of_first {c : Char} {rest : List Char} (h : c ≠ '/') :
    regexLength? (c :: rest) = none := by
  unfold regexLength?
  split
  · simp_all
  · rfl

theorem askToken_agrees (h : l.Begins cs) (t : Token) :
    (l.askToken t).Agrees (t.length? cs) := by
  obtain ⟨c, rest, hfirst, hc⟩ := exists_first h
  cases t with
  | layout =>
    rw [askToken]
    split
    · rename_i ht
      obtain ⟨d, ds, rfl, hd, hslash⟩ := tight_first h ht
      exact congrArg some (layoutLength_of_tight hd hslash)
    · trivial
  | sameLine =>
    rw [askToken]
    split
    · rename_i ht
      obtain ⟨d, ds, rfl, hd, hslash⟩ := tight_first h ht
      exact congrArg some (sameLineLength_of_tight hd hslash)
    · trivial
  | lineBreak =>
    refine agrees_refuses_if fun ht => ?_
    obtain ⟨d, ds, rfl, hd, hslash⟩ := tight_first h ht
    exact lineBreakLength?_of_tight hd hslash
  | anyCharacter =>
    rw [hfirst]
    exact ⟨1, rfl⟩
  | keyword k => exact askWord_agrees h _
  | reservedWord => exact askWords_agrees h _
  | thisWord => exact askWord_agrees h _
  | superWord => exact askWord_agrees h _
  | wordLiteral => exact askWords_agrees h _
  | name => exact askName_agrees h
  | privateName =>
    refine agrees_refuses_unless fun hmark => ?_
    rw [hfirst]
    exact privateNameLength?_of_first (ne_of_may_eq_false hc hmark)
  | number => exact askNumber_agrees h
  | string =>
    refine agrees_refuses_unless fun hquote => ?_
    rw [Bool.or_eq_false_iff] at hquote
    rw [hfirst]
    exact stringLength?_of_first (ne_of_may_eq_false hc hquote.1)
      (ne_of_may_eq_false hc hquote.2)
  | regex =>
    refine agrees_refuses_unless fun hslash => ?_
    rw [hfirst]
    exact regexLength?_of_first (ne_of_may_eq_false hc hslash)
  | templateText =>
    rw [askToken]
    split
    · rename_i hl
      subst hl
      obtain ⟨rest, rfl⟩ := h
      rfl
    · trivial
  | assignmentOperator => exact agrees_refuses_if (firstSpelling?_of_rulesOut h)
  | binaryOperator =>
    refine agrees_refuses_if fun hout => ?_
    rw [Bool.and_eq_true, decide_eq_true_eq] at hout
    refine firstSpelling?_of_words h hout.1 hout.2 fun s hs hall => ?_
    obtain ⟨t, ht, rfl⟩ := List.mem_map.1 (mem_of_mem_binarySpellings hs hall)
    refine ⟨⟨t, ?_, rfl⟩, fun ds hds => (Bool.and_eq_true_iff.1 hds).1⟩
    simpa [or_comm] using ht
  | prefixOperator =>
    refine agrees_refuses_if fun hout => ?_
    rw [Bool.and_eq_true, decide_eq_true_eq] at hout
    refine firstSpelling?_of_words h hout.1 hout.2 fun s hs hall => ?_
    obtain ⟨t, ht, rfl⟩ := List.mem_map.1 (mem_of_mem_prefixSpellings hs hall)
    exact ⟨⟨t, ht, rfl⟩, fun ds hds => hds⟩
  | postfixOperator => exact agrees_refuses_if (firstSpelling?_of_rulesOut h)
  | dot => exact agrees_refuses_if (firstSpelling?_of_rulesOut h)
  | optionalDot => exact agrees_refuses_if (firstSpelling?_of_rulesOut h)

end Lead

/-- An answer agrees with what a pattern does. -/
def Answer.Holds (p : Pattern) (cs : List Char) : Answer → Prop
  | refuses => p.Refuses cs
  | nothing => p.Ends cs cs
  | taken => ∃ rest, p.Ends cs rest
  | unknown => True

theorem Pattern.answer_holds {l : Lead} {cs : List Char} (h : l.Begins cs)
    {known : Rule → Answer} (hknown : ∀ r, (known r).Holds (rule r) cs) (p : Pattern) :
    (p.answer l known).Holds p cs := by
  -- Answers are taken apart in the order `refuses`, `nothing`, `taken`, `unknown`.
  induction p with
  | text w =>
    have hagrees := Lead.askText_agrees h w
    rw [answer]
    cases ha : l.askText w <;> rw [ha] at hagrees
    · exact refuses_text.2 fun hp => by
        rw [Answer.Agrees, spelled?, if_pos (List.isPrefixOf_iff_prefix.2 hp)] at hagrees
        cases hagrees
    · refine ends_text.2 ?_
      obtain ⟨-, hlen⟩ := spelled?_eq_some.1 hagrees
      rw [List.length_eq_zero_iff.1 hlen.symm, List.nil_append]
    · obtain ⟨k, hk⟩ := hagrees
      obtain ⟨⟨rest, hrest⟩, -⟩ := spelled?_eq_some.1 hk
      exact ⟨rest, ends_text.2 hrest.symm⟩
    · trivial
  | token t =>
    have hagrees := Lead.askToken_agrees h t
    rw [answer]
    cases ha : l.askToken t <;> rw [ha] at hagrees
    · exact refuses_token.2 hagrees
    · exact ends_token.2 ⟨0, hagrees, rfl⟩
    · obtain ⟨k, hk⟩ := hagrees
      exact ⟨_, ends_token.2 ⟨k, hk, rfl⟩⟩
    · trivial
  | rule r => exact hknown r
  | drop p ih =>
    rw [answer]
    cases ha : p.answer l known <;> rw [ha] at ih
    · exact refuses_drop.2 ih
    · exact ends_drop.2 ih
    · obtain ⟨rest, hrest⟩ := ih
      exact ⟨rest, ends_drop.2 hrest⟩
    · trivial
  | empty => exact ends_empty.2 rfl
  | both p q ihp ihq =>
    rw [answer]
    cases ha : p.answer l known <;> rw [ha] at ihp
    · exact refuses_both.2 (.inl ihp)
    · simp only
      cases hb : q.answer l known <;> rw [hb] at ihq
      · exact refuses_both.2 (.inr ⟨cs, ihp, ihq⟩)
      · exact ends_both.2 ⟨cs, ihp, ihq⟩
      · obtain ⟨rest, hrest⟩ := ihq
        exact ⟨rest, ends_both.2 ⟨cs, ihp, hrest⟩⟩
      · trivial
    · trivial
    · trivial
  | either p q ihp ihq =>
    rw [answer]
    cases ha : p.answer l known <;> rw [ha] at ihp
    · simp only
      cases hb : q.answer l known <;> rw [hb] at ihq
      · exact refuses_either.2 ⟨ihp, ihq⟩
      · exact ends_either.2 (.inr ⟨ihp, ihq⟩)
      · obtain ⟨rest, hrest⟩ := ihq
        exact ⟨rest, ends_either.2 (.inr ⟨ihp, hrest⟩)⟩
      · trivial
    · exact ends_either.2 (.inl ihp)
    · obtain ⟨rest, hrest⟩ := ihp
      exact ⟨rest, ends_either.2 (.inl hrest)⟩
    · trivial
  | optional p ih =>
    rw [answer]
    cases ha : p.answer l known <;> rw [ha] at ih
    · exact ends_optional.2 (.inr ⟨ih, rfl⟩)
    · exact ends_optional.2 (.inl ih)
    · obtain ⟨rest, hrest⟩ := ih
      exact ⟨rest, ends_optional.2 (.inl hrest)⟩
    · trivial
  | many p ih =>
    rw [answer]
    cases ha : p.answer l known <;> rw [ha] at ih
    · refine ⟨⟨0, []⟩, match?_many_of_stop fun m hm => ?_, rfl⟩
      rw [show p.match? cs = none from ih] at hm
      cases hm
    · trivial
    · trivial
    · trivial
  | absent p ih =>
    rw [answer]
    cases ha : p.answer l known <;> rw [ha] at ih
    · exact ends_absent.2 ⟨ih, rfl⟩
    · exact refuses_absent.2 ⟨cs, ih⟩
    · exact refuses_absent.2 ih
    · trivial

theorem Rule.answer_holds {l : Lead} {cs : List Char} (h : l.Begins cs) (n : Nat) (r : Rule) :
    (Rule.answer l n r).Holds (.rule r) cs := by
  induction n generalizing r with
  | zero => trivial
  | succ n ih =>
    have hpattern := r.pattern.answer_holds h ih
    rw [Rule.answer]
    cases ha : r.pattern.answer l (Rule.answer l n) <;> rw [ha] at hpattern
    · exact Pattern.refuses_rule.2 hpattern
    · exact Pattern.ends_rule.2 hpattern
    · obtain ⟨rest, hrest⟩ := hpattern
      exact ⟨rest, Pattern.ends_rule.2 hrest⟩
    · trivial

namespace Pattern

variable {p : Pattern} {l : Lead} {cs : List Char}

theorem ask_holds (h : l.Begins cs) (p : Pattern) : (p.ask l).Holds p cs :=
  p.answer_holds h (Rule.answer_holds h 40)

theorem refuses_of_ask (h : l.Begins cs) (ha : p.ask l = .refuses) : p.Refuses cs := by
  have hholds := ask_holds h p
  rwa [ha] at hholds

theorem exists_of_ask (h : l.Begins cs) (ha : p.ask l = .taken) : ∃ rest, p.Ends cs rest := by
  have hholds := ask_holds h p
  rwa [ha] at hholds

end Pattern

end LoopBound.Grammar
