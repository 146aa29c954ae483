/-
  Sets of code points given as tables of ranges.

  * `RangeTable.contains` tests membership.
  * `decodeRanges` reads the compact form in which the larger tables are written.
-/

namespace PathRouting.Unicode

/-- A set of code points as a list of ranges, both ends included. -/
abbrev RangeTable := List (Nat × Nat)

/-- Whether some range of the table holds `n`. -/
def RangeTable.contains (t : RangeTable) (n : Nat) : Bool :=
  t.any fun r => r.1 ≤ n && n ≤ r.2

/-- A table under the normalised names that it is known by. -/
structure NamedTable where
  names : List String
  table : RangeTable

/-! ## The compact form

A range is written as the distance of its first code point from the end of the range before it,
followed by `-` and the distance of its last code point from its first if that is not zero. The
numbers are hexadecimal, and a space or the end of a line stands between ranges. -/

/-- The value of a hexadecimal digit; other characters count as zero. -/
def hexDigit (c : Char) : Nat :=
  if '0' ≤ c ∧ c ≤ '9' then c.toNat - '0'.toNat
  else if 'a' ≤ c ∧ c ≤ 'f' then c.toNat - 'a'.toNat + 10
  else 0

/-- A number in hexadecimal. -/
def hexNumber (digits : List Char) : Nat :=
  digits.foldl (fun n c => 16 * n + hexDigit c) 0

/-- The ranges of the compact form whose words are given, after a range that ends at `last`. -/
def decodeWords (last : Nat) : List (List Char) → RangeTable
  | [] => []
  | word :: rest =>
    let first := last + hexNumber (word.takeWhile (· != '-'))
    let stop := first + hexNumber ((word.dropWhile (· != '-')).drop 1)
    (first, stop) :: decodeWords stop rest

/-- Reads the lines of a table in the compact form. -/
def decodeRanges (lines : List String) : RangeTable :=
  decodeWords 0 (lines.flatMap fun line => (line.splitOn " ").map (·.toList))

end PathRouting.Unicode
