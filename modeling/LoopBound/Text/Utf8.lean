/-!
# Decoding UTF-8

Bytes are decoded strictly: overlong forms, surrogates and numbers beyond Unicode are refused. An
error says which bytes could not be decoded: a byte that begins nothing, a sequence that breaks off
before its last byte, or one that the input ends in.

Decoded text then has every line end made a line feed.
-/

namespace LoopBound.Text

/-- Why bytes are no text. -/
inductive Utf8Fault where
  | invalidStart
  | invalidContinuation
  | unexpectedEnd
  deriving DecidableEq, Repr

/-- The words for a fault. -/
def Utf8Fault.describe : Utf8Fault → String
  | invalidStart => "invalid start byte"
  | invalidContinuation => "invalid continuation byte"
  | unexpectedEnd => "unexpected end of data"

/-- Bytes that could not be decoded: where they begin, and which they are. -/
structure Utf8Error where
  fault : Utf8Fault
  position : Nat
  bytes : List UInt8
  deriving DecidableEq, Repr

/-- Two hexadecimal digits. -/
def byteDigits (b : UInt8) : String :=
  let s := Nat.toDigits 16 b.toNat
  String.ofList (List.replicate (2 - s.length) '0' ++ s)

/-- The message of an error. -/
def Utf8Error.message (e : Utf8Error) : String :=
  let place :=
    match e.bytes with
    | [b] => s!"byte 0x{byteDigits b} in position {e.position}"
    | bytes => s!"bytes in position {e.position}-{e.position + bytes.length - 1}"
  "'utf-8' codec can't decode " ++ place ++ ": " ++ e.fault.describe

/-- A byte that goes on with a sequence. -/
def isContinuation (b : UInt8) : Bool :=
  b.toNat / 64 == 2

/-- The number of bytes that follow a first byte. -/
def followers? (first : UInt8) : Option Nat :=
  let n := first.toNat
  if n < 0x80 then some 0
  else if n < 0xC2 then none
  else if n < 0xE0 then some 1
  else if n < 0xF0 then some 2
  else if n < 0xF5 then some 3
  else none

/-- The second byte of a sequence, which also keeps out overlong forms, surrogates and numbers that
are too high. -/
def isSecond (first second : UInt8) : Bool :=
  isContinuation second &&
    !(first == 0xE0 && second < 0xA0) && !(first == 0xED && second ≥ 0xA0) &&
    !(first == 0xF0 && second < 0x90) && !(first == 0xF4 && second ≥ 0x90)

/-- The leading bytes of `rest` that go on with the sequence begun by `first`. -/
def goingOn (first : UInt8) : List UInt8 → List UInt8
  | [] => []
  | b :: bs => if isSecond first b then b :: bs.takeWhile isContinuation else []

/-- The number in a first byte with so many followers. -/
def firstBits (first : UInt8) (followers : Nat) : Nat :=
  match followers with
  | 0 => first.toNat
  | 1 => first.toNat % 32
  | 2 => first.toNat % 16
  | _ => first.toNat % 8

/-- Decodes the first character: it, and the number of its bytes; else the fault, and the number of
bytes at fault. -/
def decodeFirst (first : UInt8) (rest : List UInt8) : Except (Utf8Fault × Nat) (Char × Nat) :=
  match followers? first with
  | none => .error (.invalidStart, 1)
  | some n =>
    let good := (goingOn first (rest.take n))
    if good.length = n then
      let number := good.foldl (fun acc b => acc * 64 + b.toNat % 64) (firstBits first n)
      .ok (Char.ofNat number, n + 1)
    else if good.length = rest.length then .error (.unexpectedEnd, 1 + good.length)
    else .error (.invalidContinuation, 1 + good.length)

/-- Decodes bytes, the first of them being at `position`. The bytes left bound the work: they are
passed a second time as the fuel. -/
def decodeFrom (position : Nat) : List UInt8 → List UInt8 → Except Utf8Error (List Char)
  | _ :: fuel, b :: rest =>
    match decodeFirst b rest with
    | .error (fault, n) => .error ⟨fault, position, (b :: rest).take n⟩
    | .ok (c, n) => (decodeFrom (position + n) fuel ((b :: rest).drop n)).map (c :: ·)
  | _, _ => .ok []

/-- Decodes bytes. -/
def decodeUtf8 (bytes : List UInt8) : Except Utf8Error (List Char) :=
  decodeFrom 0 bytes bytes

/-- Makes every line end a line feed. -/
def unifyLineEnds : List Char → List Char
  | '\r' :: '\n' :: cs => '\n' :: unifyLineEnds cs
  | '\r' :: cs => '\n' :: unifyLineEnds cs
  | c :: cs => c :: unifyLineEnds cs
  | [] => []

end LoopBound.Text
