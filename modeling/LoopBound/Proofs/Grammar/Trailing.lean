import LoopBound.Proofs.Grammar.Leads

/-!
# Blanks behind a text

No token but layout and the text of a template can take a blank, and what must not follow a token is
never a blank. So a token takes the same from a text when blanks are put behind it.
-/

namespace LoopBound.Grammar

open LoopBound.Text

/-- There are only blanks. -/
def AllBlank (cs : List Char) : Prop :=
  ∀ c ∈ cs, isBlank c = true

/-- The second text is the first one with blanks behind it. -/
inductive Trails : List Char → List Char → Prop
  | blanks {ds : List Char} (h : AllBlank ds) : Trails [] ds
  | cons (c : Char) {cs ds : List Char} (h : Trails cs ds) : Trails (c :: cs) (c :: ds)

/-- The class holds no blank. -/
def NotBlank (p : Char → Bool) : Prop :=
  ∀ c, isBlank c = true → p c = false

variable {cs ds w : List Char} {p : Char → Bool}

theorem allBlank_nil : AllBlank [] := by
  intro c hc
  cases hc

theorem AllBlank.drop (h : AllBlank cs) (n : Nat) : AllBlank (cs.drop n) :=
  fun c hc => h c (List.mem_of_mem_drop hc)

theorem AllBlank.ne {d : Char} (h : AllBlank (d :: cs)) {c : Char} (hc : isBlank c = false) :
    d ≠ c := by
  rintro rfl
  rw [h d List.mem_cons_self] at hc
  cases hc

namespace Trails

theorem append (hw : AllBlank w) (cs : List Char) : Trails cs (cs ++ w) := by
  induction cs with
  | nil => exact .blanks hw
  | cons c cs ih => exact .cons c ih

theorem drop (h : Trails cs ds) (n : Nat) : Trails (cs.drop n) (ds.drop n) := by
  induction h generalizing n with
  | blanks h =>
    rw [List.drop_nil]
    exact .blanks (h.drop n)
  | cons c h ih =>
    cases n with
    | zero => exact .cons c h
    | succ n => exact ih n

/-! ## Runs and fixed texts -/

theorem startsIn (h : Trails cs ds) (hp : NotBlank p) :
    Grammar.startsIn p ds = Grammar.startsIn p cs := by
  cases h with
  | blanks h =>
    cases ds with
    | nil => rfl
    | cons d ds => exact hp d (h d List.mem_cons_self)
  | cons => rfl

theorem runLength (h : Trails cs ds) (hp : NotBlank p) :
    Grammar.runLength p ds = Grammar.runLength p cs := by
  induction h with
  | @blanks ds h =>
    cases ds with
    | nil => rfl
    | cons d ds => simp [Grammar.runLength, hp d (h d List.mem_cons_self)]
  | cons c h ih =>
    simp only [Grammar.runLength, List.takeWhile_cons] at ih ⊢
    split
    · rw [List.length_cons, List.length_cons, ih]
    · rfl

theorem isPrefixOf (h : Trails cs ds) (hw : ∀ c ∈ w, isBlank c = false) :
    w.isPrefixOf ds = w.isPrefixOf cs := by
  induction h generalizing w with
  | @blanks ds h =>
    cases w with
    | nil => rfl
    | cons c w =>
      cases ds with
      | nil => rfl
      | cons d ds =>
        have hne := h.ne (hw c List.mem_cons_self)
        simp [List.isPrefixOf, hne.symm]
  | cons c h ih =>
    cases w with
    | nil => rfl
    | cons d w =>
      rw [List.isPrefixOf, List.isPrefixOf, ih fun c hc => hw c (List.mem_cons_of_mem d hc)]

theorem spelled? (h : Trails cs ds) (hw : ∀ c ∈ w, isBlank c = false) :
    Grammar.spelled? w ds = Grammar.spelled? w cs := by
  rw [Grammar.spelled?, Grammar.spelled?, h.isPrefixOf hw]

end Trails

/-! ## Classes without blanks -/

theorem notBlank_beq {d : Char} (h : isBlank d = false) : NotBlank (· == d) := by
  intro c hc
  rw [beq_eq_false_iff_ne]
  rintro rfl
  rw [hc] at h
  cases h

theorem NotBlank.or {q : Char → Bool} (hp : NotBlank p) (hq : NotBlank q) :
    NotBlank fun c => p c || q c :=
  fun c hc => by simp [hp c hc, hq c hc]

theorem NotBlank.mono {q : Char → Bool} (hq : NotBlank q) (h : ∀ c, p c = true → q c = true) :
    NotBlank p := by
  intro c hc
  rw [Bool.eq_false_iff]
  intro hpc
  have hno := hq c hc
  rw [h c hpc] at hno
  cases hno

theorem notBlank_isNamePart : NotBlank isNamePart := fun _ => isNamePart_of_isBlank

theorem notBlank_isScriptDigit : NotBlank isScriptDigit := fun _ => Lead.isScriptDigit_of_isBlank

theorem notBlank_isDigitPart : NotBlank isDigitPart :=
  notBlank_isScriptDigit.or (notBlank_beq (by decide))

/-- A word character of ASCII. -/
def isAsciiWord (c : Char) : Bool :=
  isAsciiLetter c || isAsciiDigit c || c == '_'

theorem notBlank_isAsciiWord : NotBlank isAsciiWord := by
  refine notBlank_isNamePart.mono fun c hc => ?_
  rw [isNamePart, isWord_iff.2 (.inl (isAsciiWord_iff.1 hc))]
  rfl

theorem notBlank_isAsciiLetter : NotBlank isAsciiLetter :=
  notBlank_isAsciiWord.mono fun c hc => by simp [isAsciiWord, hc]

/-- The digits in other bases than ten are word characters of ASCII. -/
theorem notBlank_of_digits {digit : Char → Bool}
    (h : digit = isHexDigit ∨ digit = isOctalDigit ∨ digit = isBinaryDigit) :
    NotBlank fun c => digit c || c == '_' := by
  have ha : 'a'.toNat = 0x61 := rfl
  have hf : 'f'.toNat = 0x66 := rfl
  have hz : 'z'.toNat = 0x7A := rfl
  have hA : 'A'.toNat = 0x41 := rfl
  have hF : 'F'.toNat = 0x46 := rfl
  have hZ : 'Z'.toNat = 0x5A := rfl
  have h0 : '0'.toNat = 0x30 := rfl
  have h7 : '7'.toNat = 0x37 := rfl
  have h9 : '9'.toNat = 0x39 := rfl
  refine NotBlank.or (notBlank_isAsciiWord.mono fun c hc => ?_) (notBlank_beq (by decide))
  rcases h with rfl | rfl | rfl
  · simp only [isHexDigit, isAsciiDigit, Bool.or_eq_true, Bool.and_eq_true, decide_eq_true_eq,
      char_le_iff, isAsciiWord, isAsciiLetter, ha, hf, hz, hA, hF, hZ, h0, h9] at hc ⊢
    omega
  · simp only [isOctalDigit, isAsciiDigit, Bool.or_eq_true, Bool.and_eq_true, decide_eq_true_eq,
      char_le_iff, isAsciiWord, isAsciiLetter, h0, h7, h9] at hc ⊢
    omega
  · simp only [isBinaryDigit, Bool.or_eq_true, beq_iff_eq] at hc
    rcases hc with rfl | rfl <;> decide

/-! ## Names and words -/

namespace Trails

theorem atNameEdge (h : Trails cs ds) : Grammar.atNameEdge ds = Grammar.atNameEdge cs := by
  rw [Grammar.atNameEdge, Grammar.atNameEdge, h.startsIn notBlank_isNamePart]

theorem wordLength? (h : Trails cs ds) {word : String}
    (hw : word.toList.all (!isBlank ·) = true) :
    Grammar.wordLength? word ds = Grammar.wordLength? word cs := by
  rw [Grammar.wordLength?, Grammar.wordLength?, h.spelled? (by simpa using hw)]
  congr 1
  funext n
  exact (h.drop n).atNameEdge

theorem findSome?_wordLength? (h : Trails cs ds) {words : List String}
    (hw : words.all (fun w => w.toList.all (!isBlank ·)) = true) :
    words.findSome? (Grammar.wordLength? · ds) = words.findSome? (Grammar.wordLength? · cs) := by
  induction words with
  | nil => rfl
  | cons w ws ih =>
    rw [List.all_cons, Bool.and_eq_true] at hw
    rw [List.findSome?_cons, List.findSome?_cons, h.wordLength? hw.1, ih hw.2]

theorem nameLength? (h : Trails cs ds) : Grammar.nameLength? ds = Grammar.nameLength? cs := by
  cases h with
  | blanks h =>
    cases ds with
    | nil => rfl
    | cons d ds =>
      simp [Grammar.nameLength?, Lead.isNameStart_of_isBlank (h d List.mem_cons_self)]
  | cons c h => rw [Grammar.nameLength?, Grammar.nameLength?, h.runLength notBlank_isNamePart]

theorem privateName (h : Trails cs ds) :
    Token.privateName.length? ds = Token.privateName.length? cs := by
  cases h with
  | blanks h =>
    cases ds with
    | nil => rfl
    | cons d ds => exact Lead.privateNameLength?_of_first (h.ne (by decide))
  | cons c h =>
    by_cases hc : c = '#'
    · subst hc
      show (Grammar.nameLength? _).map _ = (Grammar.nameLength? _).map _
      rw [h.nameLength?]
    · rw [Lead.privateNameLength?_of_first hc, Lead.privateNameLength?_of_first hc]

/-! ## Strings and regular expressions -/

theorem stringTail?_cons {quote c : Char} (hc : c ≠ '\\') (cs : List Char) :
    Grammar.stringTail? quote (c :: cs) = if c == quote then some 1
      else if isLineEnd c then none else (Grammar.stringTail? quote cs).map (· + 1) := by
  rw [Grammar.stringTail?]
  · simp [hc]
  · exact fun _ _ he _ => hc he

theorem stringTail?_of_blank {quote : Char} (hquote : isBlank quote = false) (h : AllBlank ds) :
    Grammar.stringTail? quote ds = none := by
  induction ds with
  | nil => rfl
  | cons d ds ih =>
    rw [stringTail?_cons (h.ne (by decide)), ih fun c hc => h c (List.mem_cons_of_mem d hc)]
    simp [h.ne hquote]

/-- An escape that is cut off stays without an end. -/
theorem stringTail?_of_backslash {quote : Char} (hquote : isBlank quote = false)
    (hescape : quote ≠ '\\') (h : AllBlank ds) : Grammar.stringTail? quote ('\\' :: ds) = none := by
  cases ds with
  | nil => simp [Grammar.stringTail?, hescape.symm]
  | cons d ds =>
    have htail : AllBlank ds := fun c hc => h c (List.mem_cons_of_mem d hc)
    rw [Grammar.stringTail?, stringTail?_of_blank hquote htail]
    rfl

theorem stringTail? {quote : Char} (hquote : isBlank quote = false) (hescape : quote ≠ '\\')
    (h : Trails cs ds) : Grammar.stringTail? quote ds = Grammar.stringTail? quote cs := by
  induction hn : cs.length using Nat.strongRecOn generalizing cs ds with
  | ind n ih =>
    subst hn
    cases h with
    | blanks h => exact stringTail?_of_blank hquote h
    | @cons c cs ds h =>
      by_cases hc : c = '\\'
      · subst hc
        cases h with
        | blanks h =>
          rw [stringTail?_of_backslash hquote hescape h,
            stringTail?_of_backslash hquote hescape allBlank_nil]
        | cons d h =>
          rw [Grammar.stringTail?, Grammar.stringTail?,
            ih _ (by simp only [List.length_cons]; omega) h rfl]
      · rw [stringTail?_cons hc, stringTail?_cons hc, ih _ (by simp) h rfl]

theorem stringLength? (h : Trails cs ds) :
    Grammar.stringLength? ds = Grammar.stringLength? cs := by
  cases h with
  | blanks h =>
    cases ds with
    | nil => rfl
    | cons d ds => exact Lead.stringLength?_of_first (h.ne (by decide)) (h.ne (by decide))
  | cons c h =>
    by_cases hdouble : c = '"'
    · subst hdouble
      rw [Grammar.stringLength?, Grammar.stringLength?, h.stringTail? (by decide) (by decide)]
    · by_cases hsingle : c = '\''
      · subst hsingle
        rw [Grammar.stringLength?, Grammar.stringLength?, h.stringTail? (by decide) (by decide)]
      · rw [Lead.stringLength?_of_first hdouble hsingle,
          Lead.stringLength?_of_first hdouble hsingle]

theorem regexTail?_cons {bracketed : Bool} {c : Char} (hc : c ≠ '\\') (cs : List Char) :
    Grammar.regexTail? bracketed (c :: cs) = if isLineEnd c then none
      else if bracketed then (Grammar.regexTail? (c != ']') cs).map (· + 1)
      else if c == '/' then some 1
      else (Grammar.regexTail? (c == '[') cs).map (· + 1) := by
  rw [Grammar.regexTail?]
  · simp [hc]
  · exact fun _ _ he _ => hc he

theorem regexTail?_of_blank {bracketed : Bool} (h : AllBlank ds) :
    Grammar.regexTail? bracketed ds = none := by
  induction ds generalizing bracketed with
  | nil => rfl
  | cons d ds ih =>
    have hblank : AllBlank ds := fun c hc => h c (List.mem_cons_of_mem d hc)
    rw [regexTail?_cons (h.ne (by decide)), ih hblank, ih hblank]
    simp [h.ne (show isBlank '/' = false by decide)]

theorem regexTail?_of_backslash {bracketed : Bool} (h : AllBlank ds) :
    Grammar.regexTail? bracketed ('\\' :: ds) = none := by
  cases ds with
  | nil => rfl
  | cons d ds =>
    rw [Grammar.regexTail?, regexTail?_of_blank fun c hc => h c (List.mem_cons_of_mem d hc)]
    simp

theorem regexTail? {bracketed : Bool} (h : Trails cs ds) :
    Grammar.regexTail? bracketed ds = Grammar.regexTail? bracketed cs := by
  induction hn : cs.length using Nat.strongRecOn generalizing bracketed cs ds with
  | ind n ih =>
    subst hn
    cases h with
    | blanks h => exact regexTail?_of_blank h
    | @cons c cs ds h =>
      by_cases hc : c = '\\'
      · subst hc
        cases h with
        | blanks h => rw [regexTail?_of_backslash h, regexTail?_of_backslash allBlank_nil]
        | cons d h =>
          rw [Grammar.regexTail?, Grammar.regexTail?,
            ih _ (by simp only [List.length_cons]; omega) h rfl]
      · rw [regexTail?_cons hc, regexTail?_cons hc, ih _ (by simp) h rfl, ih _ (by simp) h rfl]

theorem regexLength? (h : Trails cs ds) : Grammar.regexLength? ds = Grammar.regexLength? cs := by
  cases h with
  | blanks h =>
    cases ds with
    | nil => rfl
    | cons d ds => exact Lead.regexLength?_of_first (h.ne (by decide))
  | cons c h =>
    by_cases hc : c = '/'
    · subst hc
      have hmark : NotBlank fun c => c == '*' || c == '/' :=
        (notBlank_beq (by decide)).or (notBlank_beq (by decide))
      rw [Grammar.regexLength?, Grammar.regexLength?, h.startsIn hmark, h.regexTail?]
      congr 2
      funext n
      rw [(h.drop n).runLength notBlank_isAsciiLetter]
    · rw [Lead.regexLength?_of_first hc, Lead.regexLength?_of_first hc]

/-! ## Numbers -/

theorem exponentLength (h : Trails cs ds) :
    Grammar.exponentLength ds = Grammar.exponentLength cs := by
  cases h with
  | blanks h =>
    cases ds with
    | nil => rfl
    | cons d ds =>
      simp [Grammar.exponentLength, h.ne (show isBlank 'e' = false by decide),
        h.ne (show isBlank 'E' = false by decide)]
  | cons c h =>
    have hsign : NotBlank fun c => c == '+' || c == '-' :=
      (notBlank_beq (by decide)).or (notBlank_beq (by decide))
    rw [Grammar.exponentLength, Grammar.exponentLength, h.startsIn hsign,
      (h.drop _).startsIn notBlank_isScriptDigit, (h.drop _).runLength notBlank_isDigitPart]

theorem withExponent (h : Trails cs ds) (n : Nat) :
    Grammar.withExponent ds n = Grammar.withExponent cs n := by
  rw [Grammar.withExponent, Grammar.withExponent, (h.drop n).exponentLength]

theorem radixLengths (h : Trails cs ds) {lower upper : Char} (hlower : isBlank lower = false)
    (hupper : isBlank upper = false) {digit : Char → Bool}
    (hdigit : NotBlank fun c => digit c || c == '_') :
    Grammar.radixLengths lower upper digit ds = Grammar.radixLengths lower upper digit cs := by
  have hother : ∀ {c : Char} {cs : List Char}, c ≠ '0' →
      Grammar.radixLengths lower upper digit (c :: cs) = [] := by
    intro c cs hc
    rw [Grammar.radixLengths]
    exact fun _ _ he => hc (List.cons.inj he).1
  cases h with
  | blanks h =>
    cases ds with
    | nil => rfl
    | cons d ds => rw [hother (h.ne (by decide))]; rfl
  | cons c h =>
    by_cases hc : c = '0'
    · subst hc
      cases h with
      | blanks h =>
        rename_i ds
        cases ds with
        | nil => rfl
        | cons d ds => simp [Grammar.radixLengths, h.ne hlower, h.ne hupper]
      | cons mark h =>
        rw [Grammar.radixLengths, Grammar.radixLengths, h.runLength hdigit]
    · rw [hother hc, hother hc]

theorem decimalLengths (h : Trails cs ds) :
    Grammar.decimalLengths ds = Grammar.decimalLengths cs := by
  have hdot : NotBlank (· == '.') := notBlank_beq (by decide)
  by_cases hstart : Grammar.startsIn isScriptDigit cs = true
  · unfold Grammar.decimalLengths
    rw [h.startsIn notBlank_isScriptDigit, if_pos hstart, if_pos hstart,
      h.runLength notBlank_isDigitPart]
    simp only
    rw [(h.drop _).startsIn hdot, (h.drop _).runLength notBlank_isDigitPart, h.withExponent,
      h.withExponent]
  · have hstart' := h.startsIn notBlank_isScriptDigit
    unfold Grammar.decimalLengths
    rw [hstart', if_neg hstart, if_neg hstart]
    cases h with
    | @blanks ds h =>
      cases ds with
      | nil => rfl
      | cons d ds => simp [h.ne (show isBlank '.' = false by decide)]
    | cons c h =>
      by_cases hc : c = '.'
      · subst hc
        simp only
        rw [h.startsIn notBlank_isScriptDigit, h.runLength notBlank_isDigitPart,
          (Trails.cons '.' h).withExponent]
      · simp [hc]

theorem numberLength? (h : Trails cs ds) :
    Grammar.numberLength? ds = Grammar.numberLength? cs := by
  have hreadings : numberReadings ds = numberReadings cs := by
    rw [numberReadings, numberReadings, h.decimalLengths,
      h.radixLengths (by decide) (by decide) (notBlank_of_digits (.inl rfl)),
      h.radixLengths (by decide) (by decide) (notBlank_of_digits (.inr (.inl rfl))),
      h.radixLengths (by decide) (by decide) (notBlank_of_digits (.inr (.inr rfl)))]
  have hsuffix : withSuffix ds = withSuffix cs := by
    funext n
    rw [withSuffix, withSuffix, (h.drop n).startsIn (notBlank_beq (by decide))]
  have hedge : (fun n => Grammar.atNameEdge (ds.drop n))
      = fun n => Grammar.atNameEdge (cs.drop n) := by
    funext n
    exact (h.drop n).atNameEdge
  rw [numberLength?_eq, numberLength?_eq, hreadings, hsuffix, hedge]

/-! ## Operators -/

/-- The spelling has no blank, and blanks behind it do not matter. -/
def Solid (s : Spelling) : Prop :=
  (∀ c ∈ s.text, isBlank c = false) ∧ ∀ cs ds, Trails cs ds → s.behind ds = s.behind cs

theorem solid_spellings {texts : List String} {behind : List Char → Bool}
    (htexts : texts.all (fun t => t.toList.all (!isBlank ·)) = true)
    (hbehind : ∀ cs ds, Trails cs ds → behind ds = behind cs) :
    ∀ s ∈ spellings texts behind, Solid s := by
  intro s hs
  obtain ⟨t, ht, rfl⟩ := List.mem_map.1 hs
  have ht := List.all_eq_true.1 htexts t ht
  exact ⟨by simpa using ht, hbehind⟩

theorem firstSpelling? (h : Trails cs ds) {spellings : List Spelling}
    (hs : ∀ s ∈ spellings, Solid s) :
    Grammar.firstSpelling? spellings ds = Grammar.firstSpelling? spellings cs := by
  unfold Grammar.firstSpelling?
  induction spellings with
  | nil => rfl
  | cons s ss ih =>
    obtain ⟨⟨htext, hbehind⟩, hss⟩ := List.forall_mem_cons.1 hs
    have hafter : (fun n => s.behind (ds.drop n)) = fun n => s.behind (cs.drop n) := by
      funext n
      exact hbehind _ _ (h.drop n)
    rw [List.findSome?_cons, List.findSome?_cons, h.spelled? htext, hafter, ih hss]

theorem solid_assignmentSpellings : ∀ s ∈ assignmentSpellings, Solid s := by
  rw [assignmentSpellings, List.forall_mem_append]
  refine ⟨solid_spellings (by decide) fun _ _ _ => rfl, solid_spellings (by decide) ?_⟩
  intro cs ds h
  rw [h.startsIn ((notBlank_beq (by decide)).or (notBlank_beq (by decide)))]

theorem solid_binarySpellings : ∀ s ∈ binarySpellings, Solid s := by
  have hequals : NotBlank (· == '=') := notBlank_beq (by decide)
  simp only [binarySpellings, List.forall_mem_append]
  refine ⟨⟨⟨⟨solid_spellings (by decide) ?_, solid_spellings (by decide) ?_⟩,
    solid_spellings (by decide) ?_⟩, solid_spellings (by decide) ?_⟩,
    solid_spellings (by decide) ?_⟩
  all_goals intro cs ds h
  · rw [h.startsIn hequals]
  · rw [h.startsIn hequals, h.atNameEdge]
  · rw [h.startsIn hequals]
  · rw [h.startsIn ((notBlank_beq (by decide)).or hequals)]
  · rw [h.startsIn ((notBlank_beq (by decide)).or hequals)]

theorem solid_prefixSpellings : ∀ s ∈ prefixSpellings, Solid s := by
  simp only [prefixSpellings, List.forall_mem_append]
  exact ⟨⟨solid_spellings (by decide) fun _ _ _ => rfl,
    solid_spellings (by decide) fun _ _ h => h.atNameEdge⟩,
    solid_spellings (by decide) fun _ _ _ => rfl⟩

theorem solid_dotSpellings : ∀ s ∈ dotSpellings, Solid s := by
  refine solid_spellings (by decide) fun cs ds h => ?_
  rw [h.startsIn ((notBlank_beq (by decide)).or notBlank_isScriptDigit)]

theorem solid_optionalDotSpellings : ∀ s ∈ optionalDotSpellings, Solid s := by
  refine solid_spellings (by decide) fun cs ds h => ?_
  rw [h.startsIn notBlank_isScriptDigit]

end Trails

/-! ## Tokens -/

/-- The tokens that take a blank or look for the end of the text. -/
def Token.seesBlanks : Token → Bool
  | .layout | .sameLine | .lineBreak | .anyCharacter | .templateText => true
  | _ => false

/-- **Blanks behind the text do not change what a token takes.** -/
theorem Trails.length? (h : Trails cs ds) {t : Token} (ht : t.seesBlanks = false) :
    t.length? ds = t.length? cs := by
  cases t with
  | layout | sameLine | lineBreak | anyCharacter | templateText => cases ht
  | keyword k => exact h.wordLength? (by cases k <;> decide)
  | reservedWord => exact h.findSome?_wordLength? (by decide)
  | thisWord => exact h.wordLength? (by decide)
  | superWord => exact h.wordLength? (by decide)
  | wordLiteral => exact h.findSome?_wordLength? (by decide)
  | name => exact h.nameLength?
  | privateName => exact h.privateName
  | number => exact h.numberLength?
  | string => exact h.stringLength?
  | regex => exact h.regexLength?
  | assignmentOperator => exact h.firstSpelling? solid_assignmentSpellings
  | binaryOperator => exact h.firstSpelling? solid_binarySpellings
  | prefixOperator => exact h.firstSpelling? solid_prefixSpellings
  | postfixOperator =>
    exact h.firstSpelling? (solid_spellings (by decide) fun _ _ _ => rfl)
  | dot => exact h.firstSpelling? solid_dotSpellings
  | optionalDot => exact h.firstSpelling? solid_optionalDotSpellings

end LoopBound.Grammar
