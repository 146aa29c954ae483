/-
  The patterns of a route tree: their text, their tree and their matcher.
-/
import PathRouting.Pattern.Matcher

namespace PathRouting

open Pattern

/-- A pattern that is ready for matching. -/
structure RoutePattern where
  raw : Text
  root : Node
  matcher : Matcher

namespace RoutePattern

/-- Parses and compiles a pattern. -/
def ofText (raw : Text) (o : Options) : Except PatternError RoutePattern := do
  let root ← parse raw
  return ⟨raw, root, ← compile root o⟩

/-- Matches a path from its start. -/
def match? (p : RoutePattern) (path : Text) : Option PatternMatch :=
  p.matcher.match? path

end RoutePattern

end PathRouting
