/-
  Letters and numbers of all scripts.

  * `isAlphabetic`, `isNumeric` and `isAlphanumeric` are the classes by which
    names are read.
-/
import PathRouting.Text.Basic
import PathRouting.Unicode.Addition
import PathRouting.Unicode.BinaryProperty
import PathRouting.Unicode.GeneralCategory

namespace PathRouting.Text

open Unicode

/-- Whether a character is alphabetic. -/
def isAlphabetic (c : Char) : Bool :=
  isLatinLetter c || (0x80 ≤ c.toNat &&
    (alphabetic.contains c.toNat || addedAlphabetic.contains c.toNat))

/-- Whether a character is a number. -/
def isNumeric (c : Char) : Bool :=
  isDigit c || (0x80 ≤ c.toNat &&
    (((generalCategory? "n").getD []).contains c.toNat || addedNumbers.contains c.toNat))

/-- Whether a character is alphabetic or a number. -/
def isAlphanumeric (c : Char) : Bool :=
  isAlphabetic c || isNumeric c

end PathRouting.Text
