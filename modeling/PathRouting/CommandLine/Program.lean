/-
  The program as a whole.

  * `Invocation.run` loads the settings, carries out the command and tells what
    the program prints and how it ends.
  * `UsageError.outcome` is the end of a program whose arguments are refused.
-/
import PathRouting.CommandLine.Arguments

namespace PathRouting

/-- How the program ends: with which code, and what it has printed on the
    output and on the error channel. -/
structure Outcome where
  exitCode : Nat
  output : Text
  errors : Text
deriving DecidableEq, Repr

/-! ## Refused arguments -/

namespace UsageError

/-- The code with which refused arguments end the program. -/
def exitCode : UsageError → Nat
  | .helpRequested => 0
  | _ => 2

/-- What is wrong with the arguments. -/
def message : UsageError → String
  | .helpRequested => "help was asked for"
  | .noArguments | .missingCommand => "a command is missing"
  | .unknownCommand => "there is no such command"
  | .unknownArgument => "there is no such argument"
  | .missingArgument => "a required argument is missing"
  | .missingValue => "an option needs a value"
  | .malformedValue => "a parameter has to be given as name=value"
  | .superfluousValue => "an option has no value"
  | .repeatedOption => "an option was given twice"

/-- How the program is used. -/
def help : List String :=
  ["Usage: [-c FILE] COMMAND",
    "",
    "Commands:",
    "  tokens PATTERN                     print the tokens of a pattern",
    "  parse PATTERN                      print the tree of a pattern",
    "  compile PATTERN [--case-sensitive] print the regular expression and the slots",
    "  match PATTERN PATH...              match paths against a pattern",
    "  build PATTERN [-p NAME=VALUE]...   build a path from parameters",
    "  help [COMMAND]                     print this text",
    "",
    "Options:",
    "  -c, --config FILE                  read settings from a file",
    "  -h, --help                         print this text",
    ""]

/-- The end of a program whose arguments are refused. -/
def outcome (e : UsageError) : Outcome :=
  match e with
  | .helpRequested => ⟨e.exitCode, Command.lines (help.map (·.toList)), []⟩
  | _ => ⟨e.exitCode, [], "error: ".toList ++ e.message.toList ++ ['\n']⟩

end UsageError

/-! ## Runs -/

/-- The environment variables that count. -/
def programVariables : List String :=
  ["TINYROUTER_CONFIG", "TINYROUTER_CASE_SENSITIVE", "TINYROUTER_PATH_SEPARATOR",
    "TINYROUTER_WILDCARD", "TINYROUTER_GREEDY_WILDCARD", "TINYROUTER_UNCONSTRAINED_VAR",
    "TINYROUTER_LOG_LEVEL", "TINYROUTER_LOG_FORMAT", "TINYROUTER_LOG_TARGET_FILTER",
    "TINYROUTER_LOG_INCLUDE_LOCATION"]

/-- The message of a cause. -/
def Cause.message : Cause → Text
  | .pattern e => e.message.toList
  | .external => "the file cannot be used".toList

/-- A text with each of its lines indented. -/
def indented (t : Text) : Text :=
  (Text.splitAt '\n' t).flatMap fun line => "\n    ".toList ++ line

/-- The report of a failure: its message, and below it the message of its cause,
    indented. -/
def Failure.report (f : Failure) : Text :=
  let cause := match f.cause? with
    | none => []
    | some c => "\n\nCaused by:".toList ++ indented c.message
  "Error: ".toList ++ f.message ++ cause ++ ['\n']

/-- The warnings of the settings of the log. -/
def LogSettings.warnings (s : LogSettings) : Text :=
  s.invalidFilters.flatMap fun f =>
    "Warning: Invalid log filter directive: ".toList ++ f ++ ['\n']

namespace Invocation

/-- The settings of a run; `content` is what stands in the configuration file if
    it can be read. -/
def settings (i : Invocation) (content : Option Text) (env : Environment) :
    Except Failure Settings :=
  match i.config with
  | some path => Settings.load path content env
  | none => Settings.ofEnvironment env

/-- Loads the settings and carries out the command. -/
def run (i : Invocation) (content : Option Text) (env : Environment) : Outcome :=
  match i.settings content env with
  | .error f => ⟨1, [], f.report⟩
  | .ok s =>
    match i.command.execute s with
    | .error f => ⟨1, [], s.logging.warnings ++ f.report⟩
    | .ok output => ⟨0, output ++ ['\n'], s.logging.warnings⟩

end Invocation

end PathRouting
