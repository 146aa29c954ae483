/-
  Environment variables.
-/
import PathRouting.Text.Basic

namespace PathRouting

/-- The values of environment variables, by name. -/
abbrev Environment := String → Option Text

/-- The environment of a list; the last value of a name counts. -/
def Environment.ofList (pairs : List (Text × Text)) : Environment :=
  fun name => pairs.reverse.lookup name.toList

end PathRouting
