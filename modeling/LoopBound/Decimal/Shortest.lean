/-!
# Shortest decimals

The decimal with the fewest digits that still reads back as a given binary floating-point number.
The numbers that read back form an interval around it, half way to its neighbours, with the ends
included if the significand is even. On the grid of decimals with a given number of digits, if any
point lies in the interval, one of the two neighbours of the number does.

All arithmetic is in natural numbers: the number, the ends of its interval and the grid points are
brought to one denominator.
-/

namespace LoopBound.Decimal

/-- A finite binary number above zero: `significand * 2 ^ exponent`. -/
structure Binary where
  significand : Nat
  exponent : Int
  /-- The neighbour below is only half as far away as the one above. -/
  narrowBelow : Bool
  deriving Repr, DecidableEq

/-- A decimal: `digits * 10 ^ exponent`. -/
structure Digits where
  digits : Nat
  exponent : Int
  deriving Repr, DecidableEq, Inhabited

/-- A power of two. -/
def twoTo (n : Nat) : Nat :=
  Nat.pow 2 n

/-- A power of ten. -/
def tenTo (n : Nat) : Nat :=
  Nat.pow 10 n

/-- The numerator of a quarter unit of a binary number, over `binaryDenominator`. -/
def quarterUnit (b : Binary) : Nat :=
  twoTo b.exponent.toNat

/-- The denominator of a quarter unit. -/
def quarterDenominator (b : Binary) : Nat :=
  4 * twoTo (-b.exponent).toNat

/-- A decimal lies in the interval of numbers that read back as the binary number. -/
def Binary.covers (b : Binary) (d : Digits) : Bool :=
  let scaled (quarters : Nat) := quarters * quarterUnit b * tenTo (-d.exponent).toNat
  let point := d.digits * tenTo d.exponent.toNat * quarterDenominator b
  let low := scaled (4 * b.significand - if b.narrowBelow then 1 else 2)
  let high := scaled (4 * b.significand + 2)
  if b.significand % 2 == 0 then low ≤ point && point ≤ high else low < point && point < high

/-- The number as a quotient. -/
def Binary.quotient (b : Binary) : Nat × Nat :=
  (4 * b.significand * quarterUnit b, quarterDenominator b)

/-- The grid point at or below the number, on the grid of multiples of `10 ^ exponent`, and twice
the rest and the grid step over one denominator. -/
def Binary.floorOn (b : Binary) (exponent : Int) : Nat × Nat × Nat :=
  let (n, d) := b.quotient
  let n := n * tenTo (-exponent).toNat
  let d := d * tenTo exponent.toNat
  (n / d, 2 * (n % d), d)

/-- A decimal on a grid that reads back; of two the nearer one, and of two alike the even one. -/
def Binary.onGrid? (b : Binary) (exponent : Int) : Option Digits :=
  let (below, rest, step) := b.floorOn exponent
  let low : Digits := ⟨below, exponent⟩
  let high : Digits := ⟨below + 1, exponent⟩
  match b.covers low, b.covers high with
  | true, true =>
    some (if rest < step || (rest == step && below % 2 == 0) then low else high)
  | true, false => some low
  | false, true => some high
  | false, false => none

/-- A power of ten above the number, at most ten times the next one. -/
def Binary.magnitude (b : Binary) : Int :=
  let (n, d) := b.quotient
  ((Nat.toDigits 10 n).length : Int) - (Nat.toDigits 10 d).length + 1

/-- The first grid with a decimal that reads back, from coarse to fine. -/
def Binary.firstGrid (b : Binary) (exponent : Int) : Nat → Digits
  | 0 => ⟨b.significand, 0⟩
  | fuel + 1 =>
    match b.onGrid? exponent with
    | some d => d
    | none => b.firstGrid (exponent - 1) fuel

/-- The most grids that have to be tried: seventeen digits always suffice. -/
def mostGrids : Nat :=
  20

/-- The shortest decimal that reads back. -/
def Binary.shortest (b : Binary) : Digits :=
  b.firstGrid b.magnitude mostGrids

end LoopBound.Decimal
