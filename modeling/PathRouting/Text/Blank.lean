/-
  White space as the character standard defines it.

  * `isBlank` is the property, `trim` removes such characters at both ends and
    `trimEnd` at the end only.
-/
import PathRouting.Text.Basic

namespace PathRouting.Text

/-- Whether a character is white space. -/
def isBlank (c : Char) : Bool :=
  let n := c.toNat
  (9 ≤ n && n ≤ 13) || n == 0x20 || n == 0x85 || n == 0xA0 || n == 0x1680 ||
    (0x2000 ≤ n && n ≤ 0x200A) || n == 0x2028 || n == 0x2029 || n == 0x202F || n == 0x205F ||
    n == 0x3000

/-- The text without white space at its end. -/
def trimEnd (t : Text) : Text :=
  (t.reverse.dropWhile isBlank).reverse

/-- The text without white space at its ends. -/
def trim (t : Text) : Text :=
  trimEnd (t.dropWhile isBlank)

end PathRouting.Text
