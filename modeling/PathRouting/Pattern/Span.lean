/-
  Positions in a pattern, counted in characters.
-/
import PathRouting.Text.Basic

namespace PathRouting.Pattern

/-- A stretch of a pattern: from `start` up to, and without, `stop`. -/
structure Span where
  start : Nat
  stop : Nat
deriving DecidableEq, Repr, Inhabited

/-- A span as two numbers with two dots between them. -/
def Span.render (s : Span) : Text :=
  Text.decimal s.start ++ "..".toList ++ Text.decimal s.stop

end PathRouting.Pattern
