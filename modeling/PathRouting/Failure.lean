/-
  Why a command fails.

  * Each failure has a message, and some have a cause below it: a pattern error,
    or something outside of this library.
-/
import PathRouting.Pattern.Error
import PathRouting.Text.Quoted

namespace PathRouting

open Pattern

/-- What is behind a failure. -/
inductive Cause where
  | pattern (e : PatternError)
  /-- the file system, or the reader of configuration files -/
  | external
deriving DecidableEq, Repr

/-- Why settings are not loaded or a command is not carried out. -/
inductive Failure where
  | unreadableFile (path : Text)
  | malformedFile (path : Text)
  | invalidCaseSensitive (value : Text)
  | invalidMatcher (e : PatternError)
  | notTokenized (pattern : Text) (e : PatternError)
  | notParsed (pattern : Text) (e : PatternError)
  | notCompiled (pattern : Text) (e : PatternError)
  | notLowered (pattern : Text) (e : PatternError)
  | missingParameters (pattern : Text) (names : List Text)
deriving DecidableEq, Repr

namespace Failure

/-- The message of a failure. -/
def message : Failure → Text
  | unreadableFile path => "Failed to read config file ".toList ++ path
  | malformedFile path => "Failed to parse config file ".toList ++ path
  | invalidCaseSensitive value =>
    "Invalid TINYROUTER_CASE_SENSITIVE value '".toList ++ value ++ ['\'']
  | invalidMatcher _ => "Invalid matcher configuration".toList
  | notTokenized pattern _ => "Failed to tokenize '".toList ++ pattern ++ ['\'']
  | notParsed pattern _ => "Failed to parse '".toList ++ pattern ++ ['\'']
  | notCompiled pattern _ => "Failed to compile '".toList ++ pattern ++ ['\'']
  | notLowered pattern _ => "Failed to lower '".toList ++ pattern ++ ['\'']
  | missingParameters pattern names =>
    "Cannot build '".toList ++ pattern ++ "': missing parameters [".toList ++
      Text.join ", ".toList (names.map Text.quoted) ++ [']']

/-- The cause of a failure, if there is one. -/
def cause? : Failure → Option Cause
  | unreadableFile _ | malformedFile _ => some .external
  | invalidMatcher e | notTokenized _ e | notParsed _ e | notCompiled _ e | notLowered _ e =>
    some (.pattern e)
  | invalidCaseSensitive _ | missingParameters .. => none

end Failure

end PathRouting
