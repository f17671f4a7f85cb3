import LoopBound.Proofs.Grammar.Leads

/-!
# Words and names

Keywords, the reserved words and the operators that are spelled with letters are read by listing
spellings, longest first or not, each with a look at the character behind it. Names are read by
running over name characters. Both come to the same: a word is read where a name is read, to the end
of that name, and only if the whole name is the word. So no word is read out of the front of a longer
name, and an identifier is a name that is none of the reserved words.
-/

namespace LoopBound.Grammar

open LoopBound.Text Pattern

/-! ## Places -/

/-- The pattern matches the text from one position up to another. -/
def Pattern.Reaches (p : Pattern) (text : List Char) (pos stop : Nat) : Prop :=
  pos ≤ stop ∧ (p.match? (text.drop pos)).map (·.length) = some (stop - pos)

/-- The text from one position up to another. -/
def between (text : List Char) (pos stop : Nat) : String :=
  String.ofList ((text.drop pos).take (stop - pos))

theorem length_token (t : Token) (cs : List Char) :
    ((token t).match? cs).map (·.length) = t.length? cs := by
  rw [match?_token, Option.map_map]
  exact Option.map_id'

theorem reaches_token {t : Token} {text : List Char} {pos stop : Nat} :
    (token t).Reaches text pos stop ↔ pos ≤ stop ∧ t.length? (text.drop pos) = some (stop - pos) := by
  rw [Pattern.Reaches, length_token]

/-- What follows at the place where something was read up to. -/
theorem head?_behind {text : List Char} {pos stop : Nat} (h : pos ≤ stop) :
    ((text.drop pos).drop (stop - pos)).head? = text[stop]? := by
  rw [List.drop_drop, Nat.add_sub_cancel' h, List.head?_drop]

theorem atNameEdge_eq (cs : List Char) : atNameEdge cs = cs.head?.all (!isNamePart ·) := by
  cases cs with
  | nil => rfl
  | cons c cs => rfl

/-! ## One word -/

variable {cs : List Char} {n : Nat}

/-- A name is read up to a place where no name goes on, and all of it is a name. -/
theorem nameLength?_iff : nameLength? cs = some n
    ↔ isName (cs.take n) = true ∧ n ≤ cs.length ∧ atNameEdge (cs.drop n) = true := by
  constructor
  · intro h
    obtain ⟨x, rest, rfl, rfl, hname, hedge⟩ := nameLength?_eq_some h
    rw [List.take_left, List.drop_left, List.length_append]
    exact ⟨hname, Nat.le_add_right _ _, hedge⟩
  · rintro ⟨hname, hn, hedge⟩
    have h := nameLength?_append hname hedge
    rwa [List.take_append_drop, List.length_take_of_le hn] at h

theorem any_isNamePart_of_name (h : nameLength? cs = some n) {m : Nat} (hm : 0 < m) :
    (cs.take m).any isNamePart = true := by
  obtain ⟨x, rest, rfl, -, hname, -⟩ := nameLength?_eq_some h
  cases x with
  | nil => cases hname
  | cons c x =>
    have hc : isNamePart c = true := isNamePart_of_mem_name hname c List.mem_cons_self
    obtain ⟨k, rfl⟩ := Nat.exists_eq_succ_of_ne_zero hm.ne'
    rw [List.cons_append, List.take_succ_cons, List.any_cons, hc, Bool.true_or]

/-- A word is read where the name that is read is that word. -/
theorem wordLength?_iff_name {w : String} (hw : isName w.toList = true) :
    wordLength? w cs = some n ↔ nameLength? cs = some n ∧ String.ofList (cs.take n) = w := by
  rw [wordLength?_eq_some, nameLength?_iff]
  constructor
  · rintro ⟨hfront, rfl, hedge⟩
    have htake : cs.take w.toList.length = w.toList := (List.prefix_iff_eq_take.1 hfront).symm
    rw [htake]
    exact ⟨⟨hw, hfront.length_le, hedge⟩, String.ofList_toList⟩
  · rintro ⟨⟨-, hn, hedge⟩, rfl⟩
    rw [String.toList_ofList, List.length_take_of_le hn]
    exact ⟨List.take_prefix n cs, rfl, hedge⟩

/-- In which order the words are tried does not matter: one of them at most can be read. -/
theorem findSome?_word_iff {ws : List String} (hws : ∀ w ∈ ws, isName w.toList = true) :
    ws.findSome? (wordLength? · cs) = some n
      ↔ nameLength? cs = some n ∧ String.ofList (cs.take n) ∈ ws := by
  have hsound : ∀ m, ws.findSome? (wordLength? · cs) = some m →
      nameLength? cs = some m ∧ String.ofList (cs.take m) ∈ ws := by
    intro m hm
    obtain ⟨w, hw, hword⟩ := List.exists_of_findSome?_eq_some hm
    obtain ⟨hname, rfl⟩ := (wordLength?_iff_name (hws w hw)).1 hword
    exact ⟨hname, hw⟩
  constructor
  · exact hsound n
  · rintro ⟨hname, hmem⟩
    have hword : wordLength? (String.ofList (cs.take n)) cs = some n :=
      (wordLength?_iff_name (hws _ hmem)).2 ⟨hname, rfl⟩
    cases hfound : ws.findSome? (wordLength? · cs) with
    | none =>
      have hno := List.findSome?_eq_none_iff.1 hfound _ hmem
      rw [hword] at hno
      cases hno
    | some m => rw [← hname, (hsound m hfound).1]

/-! ## Tokens that are words -/

/-- The words that a token may be read as. -/
def Token.words : Token → List String
  | .keyword k => [k.spelling]
  | .reservedWord => reservedWords
  | .thisWord => ["this"]
  | .superWord => ["super"]
  | .wordLiteral => ["true", "false", "null"]
  | .binaryOperator => ["instanceof", "in"]
  | .prefixOperator => ["typeof", "void", "delete"]
  | _ => []

/-- The token is always a word. -/
def Token.isWord : Token → Bool
  | .keyword _ | .reservedWord | .thisWord | .superWord | .wordLiteral => true
  | _ => false

theorem isName_of_mem_words (t : Token) : ∀ w ∈ t.words, isName w.toList = true := by
  intro w hw
  cases t with
  | keyword k =>
    rw [List.mem_singleton.1 hw]
    exact isName_keyword k
  | reservedWord =>
    have hall : ∀ w ∈ reservedWords, isName w.toList = true := by decide +kernel
    exact hall w hw
  | thisWord =>
    rw [List.mem_singleton.1 hw]
    decide +kernel
  | superWord =>
    rw [List.mem_singleton.1 hw]
    decide +kernel
  | wordLiteral =>
    have hall : ∀ w ∈ ["true", "false", "null"], isName w.toList = true := by decide +kernel
    exact hall w hw
  | binaryOperator =>
    have hall : ∀ w ∈ ["instanceof", "in"], isName w.toList = true := by decide +kernel
    exact hall w hw
  | prefixOperator =>
    have hall : ∀ w ∈ ["typeof", "void", "delete"], isName w.toList = true := by decide +kernel
    exact hall w hw
  | _ => cases hw

theorem length?_of_isWord {t : Token} (h : t.isWord = true) (cs : List Char) :
    t.length? cs = t.words.findSome? (wordLength? · cs) := by
  have hone (w : String) : [w].findSome? (wordLength? · cs) = wordLength? w cs := by
    rw [List.findSome?_cons]
    cases wordLength? w cs with
    | none => rfl
    | some n => rfl
  cases t with
  | keyword k => exact (hone k.spelling).symm
  | reservedWord => rfl
  | thisWord => exact (hone "this").symm
  | superWord => exact (hone "super").symm
  | wordLiteral => rfl
  | _ => cases h

/-! ## Operators that may be words -/

/-- Of spellings some of which are words, all of them with the same condition on what is behind, a
word is read where it is the name that is read. -/
theorem firstSpelling?_word_iff {spellings : List Spelling} {ws : List String}
    {behind : List Char → Bool} (hne : spellings.all (fun s => !s.text.isEmpty) = true)
    (hwords : ∀ s ∈ spellings, s.text.any isNamePart = true → ∃ w ∈ ws, ⟨w.toList, behind⟩ = s)
    (hspellings : ∀ w ∈ ws, (⟨w.toList, behind⟩ : Spelling) ∈ spellings)
    (hnames : ∀ w ∈ ws, isName w.toList = true)
    (hedge : ∀ ds, behind ds = true → atNameEdge ds = true) :
    (firstSpelling? spellings cs = some n ∧ (cs.take n).any isNamePart = true)
      ↔ nameLength? cs = some n ∧ String.ofList (cs.take n) ∈ ws
        ∧ behind (cs.drop n) = true := by
  have hsound : ∀ m, firstSpelling? spellings cs = some m → (cs.take m).any isNamePart = true →
      nameLength? cs = some m ∧ String.ofList (cs.take m) ∈ ws ∧ behind (cs.drop m) = true := by
    intro m hm hany
    obtain ⟨s, hs, hfront, rfl, hbehind⟩ := firstSpelling?_eq_some hm
    have htake : cs.take s.text.length = s.text := (List.prefix_iff_eq_take.1 hfront).symm
    rw [htake] at hany ⊢
    obtain ⟨w, hw, rfl⟩ := hwords s hs hany
    rw [String.ofList_toList]
    refine ⟨nameLength?_iff.2 ⟨?_, hfront.length_le, hedge _ hbehind⟩, hw, hbehind⟩
    rw [htake]
    exact hnames w hw
  constructor
  · rintro ⟨hm, hany⟩
    exact hsound n hm hany
  · rintro ⟨hname, hmem, hbehind⟩
    obtain ⟨-, hn, -⟩ := nameLength?_iff.1 hname
    have hspelled : spelled? (String.ofList (cs.take n)).toList cs = some n := by
      rw [String.toList_ofList, spelled?_eq_some, List.length_take_of_le hn]
      exact ⟨List.take_prefix n cs, rfl⟩
    cases hfound : firstSpelling? spellings cs with
    | none =>
      have hno := List.findSome?_eq_none_iff.1 hfound _ (hspellings _ hmem)
      rw [Option.filter_eq_none_iff] at hno
      exact absurd hbehind (hno n hspelled)
    | some m =>
      -- Whatever is found begins like the name, so it is a word as well, and the same.
      have hany := any_isNamePart_of_name hname (firstSpelling?_bounds hne hfound).1
      have hsame := (hsound m hfound hany).1
      rw [hname, Option.some.injEq] at hsame
      rw [hsame]
      exact ⟨rfl, hany⟩

theorem binaryOperator_word_iff :
    (Token.binaryOperator.length? cs = some n ∧ (cs.take n).any isNamePart = true)
      ↔ nameLength? cs = some n ∧ String.ofList (cs.take n) ∈ Token.binaryOperator.words
        ∧ (cs.drop n).head? ≠ some '=' := by
  have hpure : ∀ s ∈ binarySpellings, s.text.any isNamePart = true → s.text.all isNamePart = true :=
    by decide +kernel
  have hlisted : ∀ w ∈ Token.binaryOperator.words,
      ⟨w.toList, fun cs => atNameEdge cs && !startsIn (· == '=') cs⟩ ∈ binarySpellings := by
    intro w hw
    simp only [binarySpellings, List.mem_append]
    exact .inl (.inl (.inl (.inr (List.mem_map_of_mem hw))))
  have hequals (ds : List Char) : startsIn (· == '=') ds = false ↔ ds.head? ≠ some '=' := by
    cases ds with
    | nil => simp [startsIn]
    | cons c ds => simp [startsIn]
  rw [Token.length?, firstSpelling?_word_iff (by decide)
    (fun s hs hany => List.mem_map.1 (Lead.mem_of_mem_binarySpellings hs (hpure s hs hany)))
    hlisted (isName_of_mem_words .binaryOperator) fun ds hds => (Bool.and_eq_true_iff.1 hds).1,
    Bool.and_eq_true, Bool.not_eq_true', hequals]
  constructor
  · rintro ⟨hname, hmem, -, hno⟩
    exact ⟨hname, hmem, hno⟩
  · rintro ⟨hname, hmem, hno⟩
    exact ⟨hname, hmem, (nameLength?_iff.1 hname).2.2, hno⟩

theorem prefixOperator_word_iff :
    (Token.prefixOperator.length? cs = some n ∧ (cs.take n).any isNamePart = true)
      ↔ nameLength? cs = some n ∧ String.ofList (cs.take n) ∈ Token.prefixOperator.words := by
  have hpure : ∀ s ∈ prefixSpellings, s.text.any isNamePart = true → s.text.all isNamePart = true :=
    by decide +kernel
  have hlisted : ∀ w ∈ Token.prefixOperator.words, ⟨w.toList, atNameEdge⟩ ∈ prefixSpellings := by
    intro w hw
    simp only [prefixSpellings, List.mem_append]
    exact .inl (.inr (List.mem_map_of_mem hw))
  rw [Token.length?, firstSpelling?_word_iff (by decide)
    (fun s hs hany => List.mem_map.1 (Lead.mem_of_mem_prefixSpellings hs (hpure s hs hany)))
    hlisted (isName_of_mem_words .prefixOperator) fun ds hds => hds]
  constructor
  · rintro ⟨hname, hmem, -⟩
    exact ⟨hname, hmem⟩
  · rintro ⟨hname, hmem⟩
    exact ⟨hname, hmem, (nameLength?_iff.1 hname).2.2⟩

/-- An operator that holds name characters is read where it is the name that is read. -/
theorem operator_word_iff {t : Token} (ht : t ∈ [Token.binaryOperator, .prefixOperator]) :
    (t.length? cs = some n ∧ (cs.take n).any isNamePart = true)
      ↔ nameLength? cs = some n ∧ String.ofList (cs.take n) ∈ t.words
        ∧ (t = .binaryOperator → (cs.drop n).head? ≠ some '=') := by
  rw [List.mem_cons, List.mem_singleton] at ht
  rcases ht with rfl | rfl
  · rw [binaryOperator_word_iff]
    simp only [true_implies]
  · rw [prefixOperator_word_iff]
    simp only [reduceCtorEq, false_implies, and_true]

/-! ## Identifiers -/

/-- An identifier is read where no reserved word is, and it is the name that is read. -/
theorem length_identifier (cs : List Char) : ((rule .identifier).match? cs).map (·.length)
    = if (Token.reservedWord.length? cs).isSome then none else nameLength? cs := by
  have hpattern : Rule.identifier.pattern = both (absent (token .reservedWord)) (token .name) := rfl
  have hlength : ((rule .identifier).match? cs).map (·.length)
      = ((both (absent (token .reservedWord)) (token .name)).match? cs).map (·.length) := by
    rw [match?_rule, hpattern, Option.map_map]
    rfl
  rw [hlength]
  cases hword : Token.reservedWord.length? cs with
  | some k =>
    have habsent : (absent (token .reservedWord)).match? cs = none :=
      match?_absent_of_some (by rw [match?_token, hword]; rfl)
    rw [match?_both_of_none habsent]
    rfl
  | none =>
    have habsent : (absent (token .reservedWord)).match? cs = some ⟨0, []⟩ :=
      match?_absent_of_none (by rw [match?_token, hword]; rfl)
    have hname : ((token .name).match? cs).map (·.length) = nameLength? cs := length_token .name cs
    rw [match?_both_of_some habsent, Option.map_map, List.drop_zero, Option.isSome_none,
      if_neg Bool.false_ne_true, ← hname]
    congr 1
    funext m
    exact Nat.zero_add m.length

/-- An identifier is a name that is none of the reserved words. -/
theorem identifier_iff : ((rule .identifier).match? cs).map (·.length) = some n
    ↔ nameLength? cs = some n ∧ String.ofList (cs.take n) ∉ reservedWords := by
  have hreserved (k : Nat) : Token.reservedWord.length? cs = some k
      ↔ nameLength? cs = some k ∧ String.ofList (cs.take k) ∈ reservedWords :=
    findSome?_word_iff (isName_of_mem_words .reservedWord)
  rw [length_identifier]
  cases hword : Token.reservedWord.length? cs with
  | some k =>
    -- The name that is read is the reserved word.
    obtain ⟨hname, hmem⟩ := (hreserved k).1 hword
    constructor
    · intro h
      cases h
    · rintro ⟨hname', hno⟩
      rw [hname, Option.some.injEq] at hname'
      exact absurd (hname' ▸ hmem) hno
  | none =>
    constructor
    · intro hname
      refine ⟨hname, fun hmem => ?_⟩
      have hread := (hreserved n).2 ⟨hname, hmem⟩
      rw [hword] at hread
      cases hread
    · exact fun h => h.1

/-! ## The whole -/

/-- **Words and names are read to the same place.** At any position of any text an identifier is read
exactly where a name is read that is none of the reserved words; a token that is always a word is
read exactly where one of its words is the name that is read; an operator whose spelling holds name
characters likewise, and `in` and `instanceof` only where no equals sign follows. Where a name ends,
no name character follows, so none of these is the front of a longer name. -/
theorem words_are_whole_names (text : List Char) (pos stop : Nat) :
    ((rule .identifier).Reaches text pos stop
      ↔ (token .name).Reaches text pos stop ∧ between text pos stop ∉ reservedWords)
    ∧ (∀ t : Token, t.isWord = true → ((token t).Reaches text pos stop
        ↔ (token .name).Reaches text pos stop ∧ between text pos stop ∈ t.words))
    ∧ (∀ t ∈ [Token.binaryOperator, .prefixOperator],
        ((token t).Reaches text pos stop
            ∧ (between text pos stop).toList.any isNamePart = true)
          ↔ (token .name).Reaches text pos stop ∧ between text pos stop ∈ t.words
            ∧ (t = .binaryOperator → text[stop]? ≠ some '='))
    ∧ ((token .name).Reaches text pos stop → text[stop]?.all (!isNamePart ·) = true) := by
  have hname : (token .name).Reaches text pos stop
      ↔ pos ≤ stop ∧ nameLength? (text.drop pos) = some (stop - pos) := reaches_token
  refine ⟨?_, ?_, ?_, ?_⟩
  · rw [hname, Pattern.Reaches, identifier_iff, and_assoc]
    rfl
  · intro t ht
    rw [hname, reaches_token, length?_of_isWord ht, findSome?_word_iff (isName_of_mem_words t),
      and_assoc]
    rfl
  · intro t ht
    have hinside : (between text pos stop).toList = (text.drop pos).take (stop - pos) :=
      String.toList_ofList
    rw [hname, reaches_token, hinside, and_assoc, operator_word_iff ht, and_assoc]
    refine and_congr_right fun hle => ?_
    rw [head?_behind hle]
    rfl
  · rw [hname]
    rintro ⟨hle, hread⟩
    rw [← head?_behind hle, ← atNameEdge_eq]
    exact (nameLength?_iff.1 hread).2.2

/-- `in` is no front of `instanceof`, which is read as one operator. -/
theorem words_are_whole_names_instanceof :
    let text := "in instanceof x".toList
    (token (.keyword .in)).Reaches text 0 2 ∧ ¬(token (.keyword .in)).Reaches text 3 5
      ∧ (token .name).Reaches text 3 13 ∧ between text 3 13 ∈ Token.binaryOperator.words := by
  intro text
  obtain ⟨-, hword, -, -⟩ := words_are_whole_names text 0 2
  obtain ⟨-, hword', -, -⟩ := words_are_whole_names text 3 5
  obtain ⟨-, -, hoperator, -⟩ := words_are_whole_names text 3 13
  have hin : (token .name).Reaches text 0 2 := reaches_token.2 ⟨by decide, by decide +kernel⟩
  have hread : (token .binaryOperator).Reaches text 3 13 :=
    reaches_token.2 ⟨by decide, by decide +kernel⟩
  obtain ⟨hname, hmem, -⟩ :=
    (hoperator .binaryOperator List.mem_cons_self).1 ⟨hread, by decide +kernel⟩
  refine ⟨(hword (.keyword .in) rfl).2 ⟨hin, by decide⟩, fun h => ?_, hname, hmem⟩
  obtain ⟨hshort, -⟩ := (hword' (.keyword .in) rfl).1 h
  have hno : ¬nameLength? (text.drop 3) = some (5 - 3) := by decide +kernel
  exact hno (reaches_token.1 hshort).2

end LoopBound.Grammar
