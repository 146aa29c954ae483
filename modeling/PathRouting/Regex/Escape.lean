/-
  Literal text in a regular expression.

  * `escape` writes a text so that it matches itself.
-/
import PathRouting.Text.Basic

namespace PathRouting.Regex

/-- The characters that mean something in a regular expression. -/
def isMeta (c : Char) : Bool :=
  "\\.+*?()|[]\x7b\x7d^$#&-~".toList.contains c

/-- A text with a backslash before each character that means something. -/
def escape (t : Text) : Text :=
  t.flatMap fun c => if isMeta c then ['\\', c] else [c]

end PathRouting.Regex
