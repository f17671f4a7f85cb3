import LoopBound.Decimal.Shortest

/-!
# Written form of floating-point numbers

A 64-bit number is written with the fewest digits that read back: with a point and at least one
digit behind it from `0.0001` to below `10 ^ 16`, and with an exponent of at least two digits
beyond.
-/

namespace LoopBound.Decimal

/-- What the 64 bits of a number mean, its sign apart. -/
inductive Magnitude where
  | zero
  | finite (b : Binary)
  | infinite
  | notANumber

/-- Reads the bits of a number: its sign, and what is left. -/
def decode (bits : UInt64) : Bool × Magnitude :=
  let n := bits.toNat
  let negative := n / twoTo 63 == 1
  let exponent : Nat := n / twoTo 52 % twoTo 11
  let fraction := n % twoTo 52
  let magnitude :=
    if exponent == 2047 then (if fraction == 0 then .infinite else .notANumber)
    else if exponent == 0 then
      (if fraction == 0 then .zero else .finite ⟨fraction, -1074, false⟩)
    else
      .finite ⟨twoTo 52 + fraction, (exponent : Int) - 1075, fraction == 0 && decide (1 < exponent)⟩
  (negative, magnitude)

/-- How numbers are written. -/
structure Style where
  /-- Numbers from `10 ^ low` on, and below `10 ^ high`, have no exponent. -/
  low : Int
  high : Int
  /-- The least number of digits of an exponent. -/
  exponentDigits : Nat

/-- The way settings are written. -/
def plain : Style :=
  ⟨-4, 16, 2⟩

/-- An exponent with its sign. -/
def exponentText (digits : Nat) (e : Int) : String :=
  let s := toString e.natAbs
  (if e < 0 then "e-" else "e+") ++ String.ofList (List.replicate (digits - s.length) '0') ++ s

/-- A decimal in a style. -/
def Digits.render (style : Style) (d : Digits) : String :=
  let s := Nat.toDigits 10 d.digits
  -- the first digit stands for this power of ten
  let top : Int := d.exponent + s.length - 1
  if style.low ≤ top && top < style.high then
    if top < 0 then
      "0." ++ String.ofList (List.replicate (-top - 1).toNat '0' ++ s)
    else
      let whole := (top + 1).toNat
      let digits := s ++ List.replicate (whole - s.length) '0'
      let behind := digits.drop whole
      String.ofList (digits.take whole) ++ "." ++
        (if behind.isEmpty then "0" else String.ofList behind)
  else
    let behind := s.drop 1
    String.ofList (s.take 1) ++ (if behind.isEmpty then "" else "." ++ String.ofList behind) ++
      exponentText style.exponentDigits top

/-- The written form of a number. -/
def renderDouble (bits : UInt64) : String :=
  let (negative, magnitude) := decode bits
  let text :=
    match magnitude with
    | .zero => "0.0"
    | .finite b => b.shortest.render plain
    | .infinite => "inf"
    | .notANumber => "nan"
  match magnitude with
  | .notANumber => text
  | _ => if negative then "-" ++ text else text

end LoopBound.Decimal
