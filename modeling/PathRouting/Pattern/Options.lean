/-
  The options under which a pattern is compiled.

  Sub-patterns are regular expressions that stand for the separator, the
  wildcards and the variables without constraint.
-/
import PathRouting.Pattern.Error

namespace PathRouting.Pattern

/-- Whether letter case counts, and the four sub-patterns. -/
structure Options where
  caseSensitive : Bool := false
  pathSeparator : Text := "/".toList
  wildcard : Text := "[^/?#]*".toList
  greedyWildcard : Text := "[^?#]*".toList
  unconstrainedVariable : Text := "[^/?#]*".toList
deriving DecidableEq, Repr

namespace Options

/-- A sub-pattern by its name. -/
def get (o : Options) : SubPattern → Text
  | .pathSeparator => o.pathSeparator
  | .wildcard => o.wildcard
  | .greedyWildcard => o.greedyWildcard
  | .unconstrainedVariable => o.unconstrainedVariable

/-- The options with one sub-pattern replaced. -/
def set (o : Options) (which : SubPattern) (source : Text) : Options :=
  match which with
  | .pathSeparator => { o with pathSeparator := source }
  | .wildcard => { o with wildcard := source }
  | .greedyWildcard => { o with greedyWildcard := source }
  | .unconstrainedVariable => { o with unconstrainedVariable := source }

/-- The sub-patterns in the order in which they are checked. -/
def subPatterns : List SubPattern :=
  [.pathSeparator, .wildcard, .greedyWildcard, .unconstrainedVariable]

end Options

end PathRouting.Pattern
