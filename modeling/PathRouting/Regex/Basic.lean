/-
  Compiled regular expressions.

  * `Regex.compile` reads an expression and refuses it if it is too large.
  * `Regex.captures` finds the first match in a text and gives the stretches of
    its groups.
-/
import PathRouting.Regex.Automaton
import PathRouting.Regex.Reader
import PathRouting.Regex.Search

namespace PathRouting

/-- A regular expression that can be searched for. -/
structure Regex where
  /-- the text that it was read from -/
  source : Text
  expr : Regex.Expr

namespace Regex

/-- How many places a match has for groups, besides that of the match as a whole. -/
def groupCount (r : Regex) : Nat :=
  r.expr.groupCount

/-- The groups with names, by number. -/
def groupNames (r : Regex) : List (Nat × Text) :=
  r.expr.groupNames

/-- Reads a regular expression, with letter case ignored if asked for, and
    refuses it if it is too large. -/
def compile (caseInsensitive : Bool) (source : Text) : Except Rejection Regex := do
  let e ← read { caseInsensitive } source
  if e.fits then .ok ⟨source, e⟩ else .error .tooLarge

/-- The stretches of a text that the groups of a match have matched; group zero
    is the match as a whole. -/
structure Captures where
  text : Text
  start : Nat
  stop : Nat
  saves : Saves

namespace Captures

/-- The stretch of a group, if it took part in the match. -/
def span? (c : Captures) (group : Nat) : Option (Nat × Nat) :=
  if group = 0 then some (c.start, c.stop)
  else
    match c.saves.lookup (2 * group), c.saves.lookup (2 * group + 1) with
    | some start, some stop => some (start, stop)
    | _, _ => none

/-- The text of a group, if it took part in the match. -/
def group? (c : Captures) (group : Nat) : Option Text :=
  (c.span? group).map fun s => c.text.slice s.1 s.2

/-- The length in bytes of the text up to the end of the match. -/
def consumed (c : Captures) : Nat :=
  Text.utf8Length (c.text.take c.stop)

end Captures

/-- The first match in a text. -/
def captures (r : Regex) (t : Text) : Option Captures :=
  (r.expr.search t).map fun m => ⟨t, m.start, m.found.stop, m.found.saves⟩

end Regex

end PathRouting
