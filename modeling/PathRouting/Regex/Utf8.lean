/-
  Ranges of characters as sequences of ranges of bytes.

  * `utf8Bytes` are the bytes of a code point.
  * `byteSequences` cuts a range of code points into pieces each of which has,
    byte by byte, all values between those of its first and its last code point.
-/
import PathRouting.Text.Basic

namespace PathRouting.Regex

/-- A range of bytes, both ends included. -/
abbrev ByteRange := Nat × Nat

/-- The bytes of a code point. -/
def utf8Bytes (n : Nat) : List Nat :=
  if n < 0x80 then [n]
  else if n < 0x800 then [0xC0 + n / 64, 0x80 + n % 64]
  else if n < 0x10000 then [0xE0 + n / 4096, 0x80 + n / 64 % 64, 0x80 + n % 64]
  else [0xF0 + n / 262144, 0x80 + n / 4096 % 64, 0x80 + n / 64 % 64, 0x80 + n % 64]

/-- Where the code points of `lo` to `hi` have to be cut because not all of them
    have the same number of bytes: the last one in front of the cut. -/
def lengthCut? (lo hi : Nat) : Option Nat :=
  [0x7F, 0x7FF, 0xFFFF].find? fun last => lo ≤ last && last < hi

/-- Where the code points of `lo` to `hi` have to be cut because the values of
    their last `count` bytes do not all occur with all of the bytes in front of
    them. -/
def blockCut? (lo hi : Nat) : List Nat → Option Nat
  | [] => none
  | count :: rest =>
    let block := 64 ^ count
    if lo / block = hi / block then blockCut? lo hi rest
    else if lo % block ≠ 0 then some (lo / block * block + block - 1)
    else if hi % block ≠ block - 1 then some (hi / block * block - 1)
    else blockCut? lo hi rest

/-- Where the code points of `lo` to `hi` have to be cut first, if anywhere. -/
def cut? (lo hi : Nat) : Option Nat :=
  (lengthCut? lo hi).or (if hi < 0x80 then none else blockCut? lo hi [1, 2, 3])

/-- The pieces of the code points of `lo` to `hi`; the fuel bounds how often a
    piece is cut. -/
def cutWith : Nat → Nat → Nat → List (Nat × Nat)
  | 0, lo, hi => [(lo, hi)]
  | fuel + 1, lo, hi =>
    match cut? lo hi with
    | none => [(lo, hi)]
    | some last => cutWith fuel lo last ++ cutWith fuel (last + 1) hi

/-- The pieces of the characters of `lo` to `hi`. A piece is cut at most three
    times for its length and twice for each of three bytes. -/
def cutAll (lo hi : Nat) : List (Nat × Nat) :=
  if lo < 0xE000 ∧ 0xD7FF < hi then
    (if lo ≤ 0xD7FF then cutWith 9 lo 0xD7FF else []) ++
      (if 0xE000 ≤ hi then cutWith 9 0xE000 hi else [])
  else cutWith 9 lo hi

/-- The characters of `lo` to `hi` as sequences of ranges of bytes. -/
def byteSequences (lo hi : Nat) : List (List ByteRange) :=
  (cutAll lo hi).map fun (first, last) => (utf8Bytes first).zip (utf8Bytes last)

end PathRouting.Regex
