import LoopBound.Text.Range

/-!
# White space

Two classes. The *blanks* separate the tokens of a program; the *margins*, which also hold the four
information separators U+001C to U+001F, are what trimming a text removes.
-/

namespace LoopBound.Text

/-- The characters with the white space property. -/
def blankRanges : Ranges := [
  (0x9, 0xD), (0x20, 0x20), (0x85, 0x85), (0xA0, 0xA0), (0x1680, 0x1680), (0x2000, 0x200A),
  (0x2028, 0x2029), (0x202F, 0x202F), (0x205F, 0x205F), (0x3000, 0x3000)]

/-- White space between tokens. -/
def isBlank (c : Char) : Bool :=
  blankRanges.has c

/-- White space that trimming removes. -/
def isMargin (c : Char) : Bool :=
  isBlank c || (0x1C ≤ c.toNat && c.toNat ≤ 0x1F)

theorem isMargin_of_isBlank {c : Char} (h : isBlank c = true) : isMargin c = true := by
  simp [isMargin, h]

/-- The text without the white space in front of it. -/
def trimStart (s : String) : String :=
  String.ofList (s.toList.dropWhile isMargin)

/-- Characters without those of a class at both ends. -/
def stripped (p : Char → Bool) (cs : List Char) : List Char :=
  ((cs.dropWhile p).reverse.dropWhile p).reverse

/-- The text without the white space at both ends. -/
def trim (s : String) : String :=
  String.ofList (stripped isMargin s.toList)

end LoopBound.Text
