/-
  Sets of characters, as the classes of a regular expression build them.

  A set is a list of ranges of code points in rising order with gaps between
  them, so that equal sets have equal lists. Code points that are no characters
  do not count: no operation leaves a range of such code points only.

  * `CharSet.contains` tests a code point, `CharSet.has` a character.
  * `union`, `inter`, `diff`, `symmDiff` and `compl` are the operations of the
    same names; `folded` adds what differs in letter case only.
  * `CharSet.ofLiteral` is the set that a literal character stands for.
-/
import PathRouting.Unicode.CaseFolding
import PathRouting.Unicode.RangeTable

namespace PathRouting.Regex

open Unicode

/-- A set of characters. -/
structure CharSet where
  ranges : RangeTable
deriving DecidableEq, Repr

/-- The other case of a code point that is one of the letters A to Z. -/
def swapLatinCase (n : Nat) : Nat :=
  if 0x41 ≤ n ∧ n ≤ 0x5A then n + 0x20
  else if 0x61 ≤ n ∧ n ≤ 0x7A then n - 0x20
  else n

namespace CharSet

/-- Whether a code point is in a set. -/
def contains (s : CharSet) (n : Nat) : Bool :=
  s.ranges.contains n

/-- Whether a character is in a set. -/
def has (s : CharSet) (c : Char) : Bool :=
  s.contains c.toNat

/-! ## Building sets -/

/-- Joins the range that ends with `last` to the ranges behind it, which start
    in rising order, where they overlap or touch. -/
def joinFrom (first last : Nat) : RangeTable → RangeTable
  | [] => [(first, last)]
  | (lo, hi) :: rest =>
    if lo ≤ last + 1 then joinFrom first (Nat.max last hi) rest
    else (first, last) :: joinFrom lo hi rest

/-- Puts a range into a table in rising order. -/
def insertRange (r : Nat × Nat) : RangeTable → RangeTable
  | [] => [r]
  | r' :: rest => if r.1 ≤ r'.1 then r :: r' :: rest else r' :: insertRange r rest

/-- The ranges of a table in rising order. -/
def inOrder : RangeTable → RangeTable
  | [] => []
  | r :: rest => insertRange r (inOrder rest)

/-- The set of the code points of a table. -/
def table (t : RangeTable) : CharSet :=
  match inOrder (t.filter fun r => r.1 ≤ r.2) with
  | [] => ⟨[]⟩
  | (lo, hi) :: rest => ⟨joinFrom lo hi rest⟩

/-- The set without members. -/
def empty : CharSet := ⟨[]⟩

/-- Whether a set has no members. -/
def isEmpty (s : CharSet) : Bool :=
  s.ranges.isEmpty

/-- The set of the code points from `first` to `last`. -/
def range (first last : Nat) : CharSet := table [(first, last)]

/-- The set of one code point. -/
def single (n : Nat) : CharSet := ⟨[(n, n)]⟩

/-- The set of the code points in a list. -/
def ofList (ns : List Nat) : CharSet :=
  table (ns.map fun n => (n, n))

/-- The only member of a set that has just one. -/
def member? (s : CharSet) : Option Char :=
  match s.ranges with
  | [(lo, hi)] => if lo = hi ∧ lo.isValidChar then some (Char.ofNat lo) else none
  | _ => none

/-! ## Operations -/

/-- The code points between two bounds as a table, without code points that are
    no characters at its ends. -/
def between (lo hi : Nat) : RangeTable :=
  let lo := if 0xD800 ≤ lo ∧ lo ≤ 0xDFFF then 0xE000 else lo
  let hi := if 0xD800 ≤ hi ∧ hi ≤ 0xDFFF then 0xD7FF else hi
  if lo ≤ hi then [(lo, hi)] else []

/-- The code points from `next` on that lie in front of, between and behind the
    ranges of a table in rising order. -/
def gaps (next : Nat) : RangeTable → RangeTable
  | [] => if next ≤ 0x10FFFF then between next 0x10FFFF else []
  | (lo, hi) :: rest =>
    (if next < lo then between next (lo - 1) else []) ++ gaps (hi + 1) rest

/-- What is not in a set. -/
def compl (s : CharSet) : CharSet := ⟨gaps 0 s.ranges⟩

/-- What is in one of two sets. -/
def union (a b : CharSet) : CharSet := table (a.ranges ++ b.ranges)

/-- What is in both of two sets. -/
def inter (a b : CharSet) : CharSet := (a.compl.union b.compl).compl

/-- What is in the first set and not in the second. -/
def diff (a b : CharSet) : CharSet := a.inter b.compl

/-- What is in just one of two sets. -/
def symmDiff (a b : CharSet) : CharSet := (a.union b).diff (a.inter b)

/-- A set with what differs from a member in letter case only. -/
def folded (s : CharSet) : CharSet :=
  let orbits := caseOrbits.filter fun orbit => orbit.any s.contains
  table (s.ranges ++ orbits.flatten.map fun n => (n, n))

/-- A set with what differs from a member in the case of the letters A to Z
    only. -/
def latinFolded (s : CharSet) : CharSet :=
  let letters := (List.range 0x80).filter fun n => s.contains (swapLatinCase n)
  s.union (ofList letters)

/-- What a literal character stands for: itself, and under `fold` what differs
    from it in letter case only. -/
def ofLiteral (fold unicode : Bool) (c : Char) : CharSet :=
  if !fold then single c.toNat
  else if unicode then ofList (caseOrbit c.toNat)
  else ofList [c.toNat, swapLatinCase c.toNat]

end CharSet

end PathRouting.Regex
