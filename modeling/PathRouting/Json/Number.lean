/-
  Numbers of data values.

  A number is a whole number of 64 bits or, if it has a decimal point, an
  exponent or more digits than fit, a float of double precision.

  * `same` tells whether two numbers are equal; a whole number is never equal to
    a float.
  * `text` writes a number in the fewest digits.
  * `read` reads a number. It does not always find the nearest float: digits
    beyond 64 bits do not count, and the power of ten is multiplied in one
    rounded step after another.
-/
import PathRouting.Decimal

namespace PathRouting.Json

/-- A number. -/
inductive Number where
  | integer (value : Int)
  | float (value : Float)
deriving DecidableEq, Repr

namespace Number

/-- Whether two numbers are equal. -/
def same : Number → Number → Bool
  | .integer a, .integer b => a == b
  | .float a, .float b => a == b
  | _, _ => false

/-! ## Writing -/

/-- Digits without the zeros at their end. -/
def trimZeros (digits : Text) : Text :=
  (digits.reverse.dropWhile (· == '0')).reverse

/-- Digits of which the first `point` stand before the decimal point: written
    in full up to sixteen places before and four zeros behind the point, and
    with an exponent beyond. -/
def positional (digits : Text) (point : Int) : Text :=
  let n : Int := digits.length
  let zeros (k : Int) : Text := List.replicate k.toNat '0'
  if n ≤ point ∧ point ≤ 16 then digits ++ zeros (point - n) ++ ".0".toList
  else if 0 < point ∧ point ≤ 16 then
    digits.take point.toNat ++ '.' :: digits.drop point.toNat
  else if -5 < point ∧ point ≤ 0 then "0.".toList ++ zeros (-point) ++ digits
  else
    let sign := if point < 1 then '-' else '+'
    let exponent := sign :: Text.decimal (point - 1).natAbs
    match digits with
    | [d] => d :: 'e' :: exponent
    | d :: rest => d :: '.' :: rest ++ 'e' :: exponent
    | [] => []

/-- A finite float in digits. -/
def floatText (x : Float) : Text :=
  let sign := if Nat.pow 2 63 ≤ x.toBits.toNat then ['-'] else []
  let d := Decimal.shortest x
  let digits := Text.decimal d.digits
  if d.digits = 0 then sign ++ "0.0".toList
  else sign ++ positional (trimZeros digits) (digits.length + d.exponent)

/-- A number in digits. -/
def text : Number → Text
  | .integer n => (if n < 0 then ['-'] else []) ++ Text.decimal n.natAbs
  | .float x => floatText x

/-! ## Reading -/

/-- A power of ten as a float, for exponents up to 308. -/
def power (n : Nat) : Float :=
  Float.ofScientific 1 false n

/-- A float divided by a power of ten, in steps of 308 places. -/
def shiftDown (x : Float) (n : Nat) : Float :=
  if n ≤ 308 then x / power n
  else if x == 0 then x
  else shiftDown (x / power 308) (n - 308)
termination_by n

/-- A float multiplied by a power of ten, unless it becomes infinite. -/
def shiftUp (x : Float) (n : Nat) : Option Float :=
  if x == 0 then some x
  else if 308 < n then none
  else some (x * power n) |>.filter Float.isFinite

/-- The float of `significand * 10 ^ exponent`, unless it is infinite. -/
def scaled (significand : Nat) (exponent : Int) : Option Float :=
  let x := significand.toUInt64.toFloat
  if exponent < 0 then some (shiftDown x exponent.natAbs) else shiftUp x exponent.natAbs

/-- Whether a whole number fits into 64 bits without sign. -/
def fits (n : Nat) : Bool :=
  n < Nat.pow 2 64

/-- The number of the digits behind those of `significand` that fit, and how
    many further digits there are. -/
def gather (significand : Nat) : Text → Nat × Nat
  | [] => (significand, 0)
  | c :: rest =>
    let next := 10 * significand + (c.toNat - '0'.toNat)
    if fits next then gather next rest else (significand, rest.length + 1)

/-- A whole number that is written with some sign. Zero with a sign is a float,
    as is a number that does not fit. -/
def ofDigits (negative : Bool) (digits : Text) : Option Number :=
  let (significand, left) := gather 0 digits
  if left = 0 ∧ !negative then some (.integer significand)
  else if left = 0 ∧ 0 < significand ∧ significand ≤ Nat.pow 2 63 then
    some (.integer (-significand))
  else (scaled significand left).map fun x => .float (if negative then -x else x)

/-- A number that is written with a decimal point or an exponent. -/
def ofParts (negative : Bool) (whole fraction : Text) (exponent : Int) : Option Number :=
  let (significand, left) := gather 0 whole
  let (significand, ignored) := gather significand fraction
  let places : Int := fraction.length - ignored
  (scaled significand (left - places + exponent)).map fun x =>
    .float (if negative then -x else x)

/-- The digits at the start of a text, of which there is at least one, and the
    rest. -/
def digits? (t : Text) : Option (Text × Text) :=
  let digits := t.takeWhile Text.isDigit
  if digits.isEmpty then none else some (digits, t.dropWhile Text.isDigit)

/-- Reads an exponent, which may be missing. -/
def readExponent : Text → Option (Option Int × Text)
  | c :: rest =>
    if c = 'e' ∨ c = 'E' then
      let (negative, rest) := match rest with
        | '-' :: rest => (true, rest)
        | '+' :: rest => (false, rest)
        | _ => (false, rest)
      (digits? rest).map fun (digits, rest) =>
        let n : Int := Text.readDecimal digits
        (some (if negative then -n else n), rest)
    else some (none, c :: rest)
  | [] => some (none, [])

/-- Reads a fraction with its point, which may be missing. -/
def readFraction : Text → Option (Option Text × Text)
  | '.' :: rest => (digits? rest).map fun (digits, rest) => (some digits, rest)
  | t => some (none, t)

/-- Reads a number. Only zero begins with a zero. -/
def read (t : Text) : Option (Number × Text) := do
  let (negative, t) := match t with
    | '-' :: rest => (true, rest)
    | _ => (false, t)
  let (whole, t) ← digits? t
  if whole.head? = some '0' ∧ 1 < whole.length then none
  let (fraction, t) ← readFraction t
  let (exponent, t) ← readExponent t
  let number ←
    if fraction.isNone ∧ exponent.isNone then ofDigits negative whole
    else ofParts negative whole (fraction.getD []) (exponent.getD 0)
  return (number, t)

end Number

end PathRouting.Json
