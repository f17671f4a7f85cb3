/-!
# Classes of characters given by ranges

A class beyond ASCII is a list of inclusive code point ranges. Membership is a scan of the list:
characters beyond ASCII are rare in programs, and a scan has the shortest proofs.
-/

namespace LoopBound.Text

/-- Inclusive ranges of code points. -/
abbrev Ranges := List (Nat × Nat)

/-- The range that holds `c`, as its first code point. -/
def Ranges.start? (ranges : Ranges) (c : Char) : Option Nat :=
  (ranges.find? fun r => r.1 ≤ c.toNat && c.toNat ≤ r.2).map (·.1)

/-- `c` lies in one of the ranges. -/
def Ranges.has (ranges : Ranges) (c : Char) : Bool :=
  ranges.any fun r => r.1 ≤ c.toNat && c.toNat ≤ r.2

theorem Ranges.has_iff {ranges : Ranges} {c : Char} :
    ranges.has c = true ↔ ∃ r ∈ ranges, r.1 ≤ c.toNat ∧ c.toNat ≤ r.2 := by
  simp [Ranges.has]

/-- The ASCII letters. -/
def isAsciiLetter (c : Char) : Bool :=
  ('a' ≤ c && c ≤ 'z') || ('A' ≤ c && c ≤ 'Z')

/-- The ten ASCII digits. -/
def isAsciiDigit (c : Char) : Bool :=
  '0' ≤ c && c ≤ '9'

/-- The characters below U+0080. -/
def isAscii (c : Char) : Bool :=
  c.toNat < 128

end LoopBound.Text
