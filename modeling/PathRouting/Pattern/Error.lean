/-
  What can be wrong with a pattern or with the options that it is compiled
  under.
-/
import PathRouting.Text.Basic

namespace PathRouting.Pattern

/-- The sub-patterns that options set. -/
inductive SubPattern where
  | pathSeparator | wildcard | greedyWildcard | unconstrainedVariable
deriving DecidableEq, Repr

/-- The name under which a sub-pattern is configured. -/
def SubPattern.name : SubPattern → String
  | .pathSeparator => "path_separator"
  | .wildcard => "wildcard"
  | .greedyWildcard => "greedy_wildcard"
  | .unconstrainedVariable => "unconstrained_variable"

/-- Why a pattern is refused. Offsets count characters. -/
inductive PatternError where
  /-- the scan stopped at `offset` -/
  | unexpectedSyntax (offset : Nat)
  /-- the pattern ended, at `offset`, inside an alternation -/
  | unterminatedAlternation (offset : Nat)
  /-- a `,` stands outside of alternations -/
  | unexpectedAltSeparator (offset : Nat)
  /-- a `}` stands outside of alternations -/
  | unexpectedAltEnd (offset : Nat)
  /-- a raw regular expression stands where no variable gives it a value -/
  | regexpOutsideVariable (offset : Nat)
  /-- a configured sub-pattern opens capturing groups -/
  | capturingSubPattern (option : SubPattern) (source : Text)
  /-- a regular expression is not accepted -/
  | invalidRegex (source : Text)
  /-- the capturing groups are not those that were accounted for -/
  | groupCountMismatch (expected actual : Nat)
deriving DecidableEq, Repr

namespace PatternError

/-- Where in the pattern the error is, if it is one of syntax. -/
def offset? : PatternError → Option Nat
  | unexpectedSyntax n | unterminatedAlternation n | unexpectedAltSeparator n
  | unexpectedAltEnd n | regexpOutsideVariable n => some n
  | capturingSubPattern .. | invalidRegex _ | groupCountMismatch .. => none

/-- The message of an error. What is wrong with a regular expression is left
    to its reader. -/
def message : PatternError → String
  | unexpectedSyntax n => s!"Unexpected syntax at {n}"
  | unterminatedAlternation n => s!"Unterminated alternation at {n}"
  | unexpectedAltSeparator n => s!"Unexpected alternation separator at {n}"
  | unexpectedAltEnd n => s!"Unexpected alternation end at {n}"
  | regexpOutsideVariable n => s!"Regular expression outside of a variable constraint at {n}"
  | capturingSubPattern option source =>
    "Matcher option `" ++ option.name ++ "` must not contain capturing groups: '" ++
      String.ofList source ++ "'"
  | invalidRegex source => "Invalid matcher regex '" ++ String.ofList source ++ "': "
  | groupCountMismatch expected actual =>
    s!"Matcher accounts for {expected} capture groups but the regex has {actual}"

end PatternError

end PathRouting.Pattern
