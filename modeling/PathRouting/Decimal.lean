/-
  The shortest decimal form of a number of double precision.

  * A `Decimal` is a whole number times a power of ten.
  * `Rounding.of` are the numbers that are rounded to a given float.
  * `Decimal.shortest` has the fewest digits among them, and of several such
    decimals it is the nearest one.
-/
import PathRouting.Text.Basic

namespace PathRouting

/-- The number `digits * 10 ^ exponent`. -/
structure Decimal where
  digits : Nat
  exponent : Int
deriving DecidableEq, Repr

/-! ## Rounding -/

/-- A float without its sign and the numbers that are rounded to it: those
    between `low` and `high`, and these two if the range is `closed`. All three
    are multiples of `1 / Rounding.unit`. -/
structure Rounding where
  low : Nat
  value : Nat
  high : Nat
  closed : Bool
deriving DecidableEq, Repr

namespace Rounding

/-- How many parts one is divided into: a quarter of the least float is one of
    them. -/
def unit : Nat := Nat.pow 2 1076

/-- What is rounded to a finite float. Half the distance to the next float is
    on either side; below a power of two the distance is half of that above. A
    number in the middle is rounded to the even one of two floats. -/
def of (x : Float) : Rounding :=
  let bits := x.toBits.toNat
  let fraction := bits % Nat.pow 2 52
  let exponent := bits / Nat.pow 2 52 % Nat.pow 2 11
  let significand := if exponent = 0 then fraction else Nat.pow 2 52 + fraction
  let step := Nat.pow 2 (exponent - 1)
  let below := if fraction = 0 ∧ 1 < exponent then step else 2 * step
  let value := 4 * significand * step
  { low := value - below, value := value, high := value + 2 * step,
    closed := significand % 2 == 0 }

/-- The nearest decimal with the given exponent that is rounded to the float, if
    there is one; of two that are equally near it is the even one. -/
def onGrid (r : Rounding) (exponent : Int) : Option Decimal :=
  let factor := Nat.pow 10 (-exponent).toNat
  let step := unit * Nat.pow 10 exponent.toNat
  let rounded (digits : Nat) : Bool :=
    let n := digits * step
    (r.low * factor < n && n < r.high * factor) ||
      (r.closed && (n == r.low * factor || n == r.high * factor))
  let below := r.value * factor / step
  let rest := r.value * factor % step
  let nearer := 2 * rest < step || (2 * rest == step && below % 2 == 0)
  if rounded below && (nearer || !rounded (below + 1)) then some ⟨below, exponent⟩
  else if rounded (below + 1) then some ⟨below + 1, exponent⟩
  else none

/-- The number of places before the decimal point; it is negative if zeros stand
    behind the point. -/
def places (r : Rounding) : Int :=
  (Text.decimal (r.value * Nat.pow 10 400 / unit)).length - 400

end Rounding

/-! ## Shortest decimals -/

/-- The shortest decimal that is rounded to a finite float, up to the sign. Any
    float is told apart from all others by seventeen digits. -/
def Decimal.shortest (x : Float) : Decimal :=
  let r := Rounding.of x
  if r.value = 0 then ⟨0, 0⟩
  else ((List.range 17).findSome? fun (n : Nat) => r.onGrid (r.places - (n + 1))).getD ⟨0, 0⟩

end PathRouting
