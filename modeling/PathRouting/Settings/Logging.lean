/-
  Settings of the log.

  * `LogSettings.level` is the level that a level name stands for.
  * `LogSettings.override` puts environment variables on top.
  * `LogSettings.invalidFilters` are the filters that are left out since they
    are not well formed.
-/
import PathRouting.Settings.Directive
import PathRouting.Settings.Environment

namespace PathRouting

/-- How log records are written. -/
inductive LogFormat where
  | json
  | pretty
deriving DecidableEq, Repr

/-- The levels of log records. -/
inductive LogLevel where
  | trace | debug | info | warn | error
deriving DecidableEq, Repr

/-- The format of a name in any letter case; every other name is `pretty`. -/
def LogFormat.ofText (name : Text) : LogFormat :=
  if Text.lower name = "json".toList then .json else .pretty

/-- The level of a name in any letter case; every other name is `warn`. -/
def LogLevel.ofText (name : Text) : LogLevel :=
  let name := Text.lower name
  if name = "trace".toList then .trace
  else if name = "debug".toList then .debug
  else if name = "info".toList then .info
  else if name = "error".toList then .error
  else .warn

/-- Settings of the log: the name of the level, the format, further filters
    with commas between them, and whether records tell their place. -/
structure LogSettings where
  logLevel : Text := "warn".toList
  format : LogFormat := .pretty
  targetFilter : Option Text := none
  includeLocation : Bool := false
deriving DecidableEq, Repr

namespace LogSettings

/-- The level that is logged. -/
def level (s : LogSettings) : LogLevel :=
  LogLevel.ofText s.logLevel

/-- The truth value of one of the words `true` and `false`. -/
def truth? (t : Text) : Option Bool :=
  if t = "true".toList then some true
  else if t = "false".toList then some false
  else none

/-- The settings with environment variables on top. A location switch that is
    no truth value does not count. -/
def override (s : LogSettings) (env : Environment) : LogSettings where
  logLevel := (env "TINYROUTER_LOG_LEVEL").getD s.logLevel
  format := ((env "TINYROUTER_LOG_FORMAT").map LogFormat.ofText).getD s.format
  targetFilter := (env "TINYROUTER_LOG_TARGET_FILTER").or s.targetFilter
  includeLocation := ((env "TINYROUTER_LOG_INCLUDE_LOCATION").bind truth?).getD s.includeLocation

/-- The settings of an environment. -/
def ofEnvironment (env : Environment) : LogSettings :=
  override {} env

/-- The filters that are not well formed. -/
def invalidFilters (s : LogSettings) : List Text :=
  match s.targetFilter with
  | none => []
  | some filters =>
    ((Text.splitAt ',' filters).map Text.trim).filter fun f =>
      !f.isEmpty && !Directive.isWellFormed f

end LogSettings

end PathRouting
