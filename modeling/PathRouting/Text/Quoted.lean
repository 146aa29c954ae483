/-
  Quoted text: a text between double quotes in printable characters.

  * `printable` says which characters stand for themselves.
  * `quoted` writes a text with the others escaped.
-/
import PathRouting.Text.Basic
import PathRouting.Unicode.Addition
import PathRouting.Unicode.BinaryProperty
import PathRouting.Unicode.GeneralCategory

namespace PathRouting.Text

open Unicode

/-- The code points without a visible form: controls, formats, private and
    unassigned ones, separators, and those that are ignored by default. -/
def invisible : RangeTable :=
  defaultIgnorable ++ ["cc", "cf", "co", "cn", "zl", "zp", "zs"].flatMap fun name =>
    (generalCategory? name).getD []

/-- Whether a code point is a mark that extends the character before it. -/
def isExtendingMark (n : Nat) : Bool :=
  addedMarks.contains n ||
    (graphemeExtend.contains n && ((generalCategory? "m").getD []).contains n)

/-- Whether a character stands for itself inside quotes: it has a visible form
    or is the space, and is no mark that extends the character before it. -/
def printable (c : Char) : Bool :=
  if c.toNat < 0x7F then ' ' ≤ c
  else (addedCharacters.contains c.toNat || !invisible.contains c.toNat) &&
    !isExtendingMark c.toNat

/-- A character as written inside quotes. -/
def escaped (c : Char) : Text :=
  if c = '\x00' then "\\0".toList
  else if c = '\t' then "\\t".toList
  else if c = '\n' then "\\n".toList
  else if c = '\r' then "\\r".toList
  else if c = '\\' then "\\\\".toList
  else if c = '\x22' then "\\\x22".toList
  else if printable c then [c]
  else "\\u\x7b".toList ++ Nat.toDigits 16 c.toNat ++ ['\x7d']

/-- A text between double quotes. -/
def quoted (t : Text) : Text :=
  '\x22' :: t.flatMap escaped ++ ['\x22']

end PathRouting.Text
