import LoopBound.Text.Escaped
import Mathlib.Data.Nat.Digits.Defs

/-!
# Escaped texts read back

What an escaped text stands for, said by a reader of its own: the short escapes by a table, a number
of four hexadecimal digits as a UTF-16 unit, everything else as itself, and the units put together
in the end, a surrogate only as half of a pair. The reader knows nothing of how texts are escaped.

A character is escaped in one of three ways, and every fact about escaped texts is a fact about those
three: nothing but printable ASCII is written, and the reader gives back the text that was escaped.
-/

namespace LoopBound.Text

/-! ## The reader -/

/-- The value of a hexadecimal digit of either case. -/
def hexValue? (c : Char) : Option Nat :=
  if isAsciiDigit c then some (c.toNat - '0'.toNat)
  else if 'a' ≤ c && c ≤ 'f' then some (c.toNat - 'a'.toNat + 10)
  else if 'A' ≤ c && c ≤ 'F' then some (c.toNat - 'A'.toNat + 10)
  else none

/-- The number that hexadecimal digits spell. -/
def hexNumber? (ds : List Char) : Option Nat :=
  ds.foldlM (fun n d => (hexValue? d).map (16 * n + ·)) 0

/-- What a backslash and this character stand for. -/
def shortEscape? : Char → Option Char
  | '"' => some '"'
  | '\\' => some '\\'
  | '/' => some '/'
  | 'b' => some '\x08'
  | 'f' => some '\x0c'
  | 'n' => some '\n'
  | 'r' => some '\r'
  | 't' => some '\t'
  | _ => none

/-- The UTF-16 units that the inside of a string in double quotes stands for. -/
def unitsOf? : List Char → Option (List Nat)
  | [] => some []
  | '\\' :: 'u' :: a :: b :: c :: d :: cs => do
    let n ← hexNumber? [a, b, c, d]
    let ns ← unitsOf? cs
    return n :: ns
  | '\\' :: e :: cs => do
    let c ← shortEscape? e
    let ns ← unitsOf? cs
    return units16 c ++ ns
  | c :: cs => if c == '"' || c == '\\' then none else (unitsOf? cs).map (units16 c ++ ·)

/-- The first half of a surrogate pair. -/
def isLead (n : Nat) : Bool :=
  0xD800 ≤ n && n < 0xDC00

/-- The second half of a surrogate pair. -/
def isTrail (n : Nat) : Bool :=
  0xDC00 ≤ n && n < 0xE000

/-- The characters of UTF-16 units; surrogates must stand in pairs. -/
def ofUnits? : List Nat → Option (List Char)
  | [] => some []
  | [n] => if isLead n || isTrail n then none else some [Char.ofNat n]
  | n :: m :: ns =>
    if isLead n then
      if isTrail m then
        (ofUnits? ns).map (Char.ofNat (0x10000 + (n - 0xD800) * 0x400 + (m - 0xDC00)) :: ·)
      else none
    else if isTrail n then none
    else (ofUnits? (m :: ns)).map (Char.ofNat n :: ·)

/-- The text that a string in double quotes stands for. -/
def unescaped? (raw : String) : Option String :=
  match raw.toList with
  | '"' :: cs =>
    if cs.getLast? = some '"' then
      ((unitsOf? cs.dropLast).bind ofUnits?).map String.ofList
    else none
  | _ => none

/-! ## Classes of characters -/

/-- The printable characters of ASCII. -/
def isPlain (c : Char) : Bool :=
  ' ' ≤ c && c ≤ '~'

/-- Those of them that stand for themselves inside a string. -/
def isBare (c : Char) : Bool :=
  isPlain c && c != '"' && c != '\\'

theorem isBare_iff {c : Char} : isBare c = true ↔ isPlain c = true ∧ c ≠ '"' ∧ c ≠ '\\' := by
  simp [isBare, and_assoc]

/-! ## Hexadecimal numbers -/

theorem hexValue?_digitChar {d : Nat} (h : d < 16) : hexValue? d.digitChar = some d := by
  have hall : ∀ d < 16, hexValue? d.digitChar = some d := by decide
  exact hall d h

theorem isBare_digitChar {d : Nat} (h : d < 16) : isBare d.digitChar = true := by
  have hall : ∀ d < 16, isBare d.digitChar = true := by decide
  exact hall d h

theorem hexNumber?_toDigits (n : Nat) : hexNumber? (Nat.toDigits 16 n) = some n := by
  induction n using Nat.base_induction 16 (by decide) with
  | single m hm =>
    rw [Nat.toDigits_of_lt_base hm]
    simp [hexNumber?, hexValue?_digitChar hm]
  | digit m k hk hm ih =>
    rw [hexNumber?] at ih
    rw [← Nat.toDigits_append_toDigits (by decide) hm hk, Nat.toDigits_of_lt_base hk, hexNumber?,
      List.foldlM_append, ih]
    simp [hexValue?_digitChar hk]

theorem isBare_of_mem_toDigits {n : Nat} : ∀ d ∈ Nat.toDigits 16 n, isBare d = true := by
  induction n using Nat.base_induction 16 (by decide) with
  | single m hm =>
    rw [Nat.toDigits_of_lt_base hm]
    simp [isBare_digitChar hm]
  | digit m k hk hm ih =>
    rw [← Nat.toDigits_append_toDigits (by decide) hm hk, Nat.toDigits_of_lt_base hk]
    intro d hd
    rcases List.mem_append.1 hd with hd | hd
    · exact ih d hd
    · rw [List.mem_singleton.1 hd]
      exact isBare_digitChar hk

/-- Zeros in front change nothing. -/
theorem hexNumber?_zeros (k : Nat) (ds : List Char) :
    hexNumber? (List.replicate k '0' ++ ds) = hexNumber? ds := by
  induction k with
  | zero => rfl
  | succ k ih =>
    rw [List.replicate_succ, List.cons_append, ← ih]
    rfl

theorem hexNumber?_hexDigits (width n : Nat) : hexNumber? (hexDigits width n) = some n := by
  rw [hexDigits, hexNumber?_zeros, hexNumber?_toDigits]

theorem length_hexDigits {width n : Nat} (hw : 0 < width) (h : n < 16 ^ width) :
    (hexDigits width n).length = width := by
  have hle : (Nat.toDigits 16 n).length ≤ width :=
    (Nat.length_toDigits_le_iff (by decide) hw).2 h
  rw [hexDigits, List.length_append, List.length_replicate]
  omega

theorem isBare_of_mem_hexDigits {width n : Nat} : ∀ d ∈ hexDigits width n, isBare d = true := by
  intro d hd
  rcases List.mem_append.1 hd with hd | hd
  · rw [List.eq_of_mem_replicate hd]
    rfl
  · exact isBare_of_mem_toDigits d hd

/-! ## Units -/

theorem units16_of_lt {c : Char} (h : c.toNat < 0x10000) : units16 c = [c.toNat] :=
  if_pos h

theorem units16_of_le {c : Char} (h : 0x10000 ≤ c.toNat) :
    units16 c
      = [0xD800 + (c.toNat - 0x10000) / 0x400, 0xDC00 + (c.toNat - 0x10000) % 0x400] :=
  if_neg (Nat.not_lt.2 h)

theorem toNat_valid (c : Char) :
    c.toNat < 0xD800 ∨ 0xDFFF < c.toNat ∧ c.toNat < 0x110000 :=
  c.valid

theorem units16_lt {c : Char} : ∀ n ∈ units16 c, n < 0x10000 := by
  have hvalid := toNat_valid c
  intro n hn
  rcases Nat.lt_or_ge c.toNat 0x10000 with hc | hc
  · rw [units16_of_lt hc, List.mem_singleton] at hn
    omega
  · rw [units16_of_le hc, List.mem_cons, List.mem_singleton] at hn
    omega

/-- The units of a character are read back as that character. -/
theorem ofUnits?_units16 (c : Char) (ns : List Nat) :
    ofUnits? (units16 c ++ ns) = (ofUnits? ns).map (c :: ·) := by
  have hvalid := toNat_valid c
  rcases Nat.lt_or_ge c.toNat 0x10000 with hc | hc
  · have hlead : isLead c.toNat = false := by
      simp only [isLead, Bool.and_eq_false_iff, decide_eq_false_iff_not]
      omega
    have htrail : isTrail c.toNat = false := by
      simp only [isTrail, Bool.and_eq_false_iff, decide_eq_false_iff_not]
      omega
    rw [units16_of_lt hc]
    cases ns with
    | nil => simp [ofUnits?, hlead, htrail, Char.ofNat_toNat]
    | cons m ns => simp [ofUnits?, hlead, htrail, Char.ofNat_toNat]
  · have hlead : isLead (0xD800 + (c.toNat - 0x10000) / 0x400) = true := by
      simp only [isLead, Bool.and_eq_true, decide_eq_true_eq]
      omega
    have htrail : isTrail (0xDC00 + (c.toNat - 0x10000) % 0x400) = true := by
      simp only [isTrail, Bool.and_eq_true, decide_eq_true_eq]
      omega
    have hback : 0x10000 + (0xD800 + (c.toNat - 0x10000) / 0x400 - 0xD800) * 0x400
        + (0xDC00 + (c.toNat - 0x10000) % 0x400 - 0xDC00) = c.toNat := by
      omega
    rw [units16_of_le hc, List.cons_append, List.cons_append, List.nil_append, ofUnits?,
      if_pos hlead, if_pos htrail, hback, Char.ofNat_toNat]

theorem ofUnits?_flatMap_units16 (cs : List Char) :
    ofUnits? (cs.flatMap units16) = some cs := by
  induction cs with
  | nil => rfl
  | cons c cs ih => rw [List.flatMap_cons, ofUnits?_units16, ih, Option.map_some]

/-! ## One character -/

/-- The three ways to escape a character. -/
inductive Escaping (c : Char) : List Char → Prop where
  /-- A backslash and one more character. -/
  | short (e : Char) (plain : isPlain e = true) (stands : shortEscape? e = some c) :
      Escaping c ['\\', e]
  /-- The character as it is. -/
  | itself (bare : isBare c = true) : Escaping c [c]
  /-- Its units by their numbers. -/
  | byUnits : Escaping c ((units16 c).flatMap escapedUnit)

theorem escaping (c : Char) : Escaping c (escapedChar c) := by
  unfold escapedChar
  simp only [beq_iff_eq]
  split_ifs with hquote hbackslash hfeed hreturn htab hback hform hplain
  · exact .short '"' rfl (by rw [hquote]; rfl)
  · exact .short '\\' rfl (by rw [hbackslash]; rfl)
  · exact .short 'n' rfl (by rw [hfeed]; rfl)
  · exact .short 'r' rfl (by rw [hreturn]; rfl)
  · exact .short 't' rfl (by rw [htab]; rfl)
  · exact .short 'b' rfl (by rw [hback]; rfl)
  · exact .short 'f' rfl (by rw [hform]; rfl)
  · exact .itself (isBare_iff.2 ⟨hplain, hquote, hbackslash⟩)
  · exact .byUnits

theorem isPlain_of_mem_escapedUnit {n : Nat} : ∀ d ∈ escapedUnit n, isPlain d = true := by
  intro d hd
  rw [escapedUnit, List.mem_cons, List.mem_cons] at hd
  rcases hd with rfl | rfl | hd
  · rfl
  · rfl
  · exact (isBare_iff.1 (isBare_of_mem_hexDigits d hd)).1

theorem Escaping.isPlain {c : Char} {piece : List Char} (h : Escaping c piece) :
    ∀ d ∈ piece, isPlain d = true := by
  intro d hd
  cases h with
  | short e plain =>
    rw [List.mem_cons, List.mem_singleton] at hd
    rcases hd with rfl | rfl
    · rfl
    · exact plain
  | itself bare =>
    rw [List.mem_singleton.1 hd]
    exact (isBare_iff.1 bare).1
  | byUnits =>
    obtain ⟨n, -, hd⟩ := List.mem_flatMap.1 hd
    exact isPlain_of_mem_escapedUnit d hd

theorem unitsOf?_escapedUnit {n : Nat} (h : n < 0x10000) (cs : List Char) :
    unitsOf? (escapedUnit n ++ cs) = (unitsOf? cs).map (n :: ·) := by
  obtain ⟨a, b, c, d, hdigits⟩ : ∃ a b c d, hexDigits 4 n = [a, b, c, d] := by
    have hlength : (hexDigits 4 n).length = 4 := length_hexDigits (by decide) h
    match hexDigits 4 n, hlength with
    | [a, b, c, d], _ => exact ⟨a, b, c, d, rfl⟩
  have hn : hexNumber? [a, b, c, d] = some n := hdigits ▸ hexNumber?_hexDigits 4 n
  rw [escapedUnit, hdigits]
  simp only [List.cons_append, List.nil_append, unitsOf?, hn, Option.bind_eq_bind,
    Option.bind_some]
  cases unitsOf? cs with
  | none => rfl
  | some ns => rfl

theorem unitsOf?_flatMap_escapedUnit {ns : List Nat} (h : ∀ n ∈ ns, n < 0x10000)
    (cs : List Char) :
    unitsOf? (ns.flatMap escapedUnit ++ cs) = (unitsOf? cs).map (ns ++ ·) := by
  induction ns with
  | nil => simp
  | cons n ns ih =>
    rw [List.flatMap_cons, List.append_assoc, unitsOf?_escapedUnit (h n List.mem_cons_self),
      ih fun m hm => h m (List.mem_cons_of_mem n hm), Option.map_map]
    rfl

/-- An escaped character is read back as its units, whatever stands behind it. -/
theorem Escaping.unitsOf? {c : Char} {piece : List Char} (h : Escaping c piece)
    (cs : List Char) :
    unitsOf? (piece ++ cs) = (unitsOf? cs).map (units16 c ++ ·) := by
  cases h with
  | short e _ stands =>
    have hu : e ≠ 'u' := by
      rintro rfl
      cases stands
    rw [List.cons_append, List.cons_append, List.nil_append, LoopBound.Text.unitsOf?, stands]
    · cases LoopBound.Text.unitsOf? cs with
      | none => rfl
      | some ns => rfl
    · intro _ _ _ _ _ he
      exact absurd he hu
  | itself bare =>
    obtain ⟨-, notQuote, notBackslash⟩ := isBare_iff.1 bare
    have hneither : ¬((c == '"' || c == '\\') = true) := by
      simp [notQuote, notBackslash]
    rw [List.cons_append, List.nil_append, LoopBound.Text.unitsOf?, if_neg hneither]
    · intro _ _ _ _ _ hc
      exact absurd hc notBackslash
    · intro _ _ hc
      exact absurd hc notBackslash
  | byUnits => exact unitsOf?_flatMap_escapedUnit units16_lt cs

theorem unitsOf?_flatMap_escapedChar (cs : List Char) :
    unitsOf? (cs.flatMap escapedChar) = some (cs.flatMap units16) := by
  induction cs with
  | nil => rfl
  | cons c cs ih => rw [List.flatMap_cons, (escaping c).unitsOf?, ih, Option.map_some]; rfl

/-! ## A text -/

theorem toList_escaped (s : String) :
    (escaped s).toList = '"' :: (s.toList.flatMap escapedChar ++ ['"']) := by
  rw [escaped, String.toList_ofList, List.cons_append]

/-- An escaped text holds printable ASCII only. -/
theorem isPlain_of_mem_escaped {s : String} : ∀ c ∈ (escaped s).toList, isPlain c = true := by
  intro c hc
  rw [toList_escaped, List.mem_cons, List.mem_append, List.mem_flatMap, List.mem_singleton] at hc
  rcases hc with rfl | ⟨d, -, hc⟩ | rfl
  · rfl
  · exact (escaping d).isPlain c hc
  · rfl

/-- An escaped text is read back as the text that was escaped. -/
theorem unescaped?_escaped (s : String) : unescaped? (escaped s) = some s := by
  rw [unescaped?, toList_escaped]
  simp only [List.getLast?_concat, if_true, List.dropLast_concat, unitsOf?_flatMap_escapedChar,
    Option.bind_some, ofUnits?_flatMap_units16, Option.map_some, String.ofList_toList]

/-- The reader takes more than what is written here: capital digits, the escaped slash. -/
example : unescaped? "\"\\uD83D\\uDE00\\/\"" = some "😀/" := by decide +kernel

/-- Half of a pair stands for nothing. -/
example : unescaped? "\"\\ud83d\"" = none := by decide +kernel

end LoopBound.Text
