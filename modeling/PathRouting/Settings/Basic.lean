/-
  Settings of the program: the options of patterns and those of the log.

  * `Settings.ofFile` reads the fields of a configuration file.
  * `Settings.override` puts environment variables on top, `Settings.check`
    refuses options that cannot be used.
  * `Settings.load` and `Settings.ofEnvironment` do all of it, with a file and
    without.
-/
import PathRouting.Failure
import PathRouting.Pattern.Matcher
import PathRouting.Settings.Logging
import PathRouting.Toml.Reader

namespace PathRouting

open Pattern Toml

/-- Settings of the program. -/
structure Settings where
  matcher : Options := {}
  logging : LogSettings := {}
deriving DecidableEq, Repr

/-! ## Fields of a file -/

/-- How the value of a file sets one field of a record. -/
structure Setter (α : Type) where
  name : Text
  set : α → Value → Option α

namespace Setter

variable {α : Type}

/-- A field that holds a truth value. -/
def boolean (name : String) (set : α → Bool → α) : Setter α where
  name := name.toList
  set a
    | .boolean value => some (set a value)
    | _ => none

/-- A field that holds a text. -/
def string (name : String) (set : α → Text → α) : Setter α where
  name := name.toList
  set a
    | .string value => some (set a value)
    | _ => none

/-- Sets the fields of a table; fields without setter do not count. -/
def setFields (setters : List (Setter α)) (a : α) : Fields → Option α
  | [] => some a
  | (name, value) :: rest =>
    match setters.find? (·.name = name) with
    | none => setFields setters a rest
    | some s => (s.set a value).bind (setFields setters · rest)

/-- Sets the first fields from a list of values. -/
def setItems (a : α) : List (Setter α) → List Value → Option α
  | s :: setters, value :: rest => (s.set a value).bind (setItems · setters rest)
  | _, _ => some a

/-- Sets the fields of a record: from a table by name, or from an array by
    position. A time has no fields. -/
def setRecord (setters : List (Setter α)) (a : α) : Value → Option α
  | .table _ fields => setFields setters a fields
  | .array items => setItems a setters items
  | .tables elements => setItems a setters (elements.reverse.map (.table .header))
  | .datetime => some a
  | .string _ | .integer _ | .float | .boolean _ => none

end Setter

/-- The fields of the options of patterns. -/
def Pattern.Options.setters : List (Setter Options) :=
  .boolean "case_sensitive" (fun o value => { o with caseSensitive := value }) ::
    Options.subPatterns.map fun which => .string which.name fun o value => o.set which value

/-- The format of a value: its name, or a table with nothing under its name. -/
def LogFormat.ofValue? : Value → Option LogFormat
  | .string name => named? name
  | .table _ [(name, .array [])] | .table _ [(name, .table _ [])] => named? name
  | _ => none
where
  named? (name : Text) : Option LogFormat :=
    if name = "json".toList then some .json
    else if name = "pretty".toList then some .pretty
    else none

/-- The fields of the settings of the log. -/
def LogSettings.setters : List (Setter LogSettings) :=
  [.string "log_level" fun s value => { s with logLevel := value },
    ⟨"format".toList, fun s value =>
      (LogFormat.ofValue? value).map fun f => { s with format := f }⟩,
    .string "target_filter" fun s value => { s with targetFilter := some value },
    .boolean "include_location" fun s value => { s with includeLocation := value }]

namespace Settings

/-- The two parts of a configuration file. -/
def setters : List (Setter Settings) :=
  [⟨"matcher".toList, fun s value =>
      (Setter.setRecord Options.setters {} value).map fun o => { s with matcher := o }⟩,
    ⟨"logging".toList, fun s value =>
      (Setter.setRecord LogSettings.setters {} value).map fun l => { s with logging := l }⟩]

/-- The settings in the text of a configuration file, if it is well formed and
    its values fit. -/
def ofFile? (text : Text) : Option Settings :=
  (Toml.parse? text).bind (Setter.setFields setters {})

/-! ## Environment variables -/

/-- The truth value of a word in any letter case, with blanks around it. -/
def switch? (value : Text) : Option Bool :=
  let word := Text.lower (Text.trim value)
  if ["1".toList, "true".toList, "yes".toList, "on".toList].contains word then some true
  else if ["0".toList, "false".toList, "no".toList, "off".toList].contains word then some false
  else none

/-- The environment variable of a sub-pattern. -/
def variableOf : SubPattern → String
  | .pathSeparator => "TINYROUTER_PATH_SEPARATOR"
  | .wildcard => "TINYROUTER_WILDCARD"
  | .greedyWildcard => "TINYROUTER_GREEDY_WILDCARD"
  | .unconstrainedVariable => "TINYROUTER_UNCONSTRAINED_VAR"

/-- Whether letter case counts, with the environment variable on top. -/
def overrideCase (caseSensitive : Bool) (env : Environment) : Except Failure Bool :=
  match env "TINYROUTER_CASE_SENSITIVE" with
  | none => .ok caseSensitive
  | some value =>
    match switch? value with
    | some b => .ok b
    | none => .error (.invalidCaseSensitive value)

/-- The sub-patterns with environment variables on top. -/
def overrideSubPatterns (o : Options) (env : Environment) : Options :=
  Options.subPatterns.foldl
    (fun o which => match env (variableOf which) with
      | some source => o.set which source
      | none => o) o

/-- The settings with environment variables on top. -/
def override (s : Settings) (env : Environment) : Except Failure Settings :=
  (overrideCase s.matcher.caseSensitive env).map fun caseSensitive =>
    { matcher := { overrideSubPatterns s.matcher env with caseSensitive }
      logging := s.logging.override env }

/-! ## Loading -/

/-- Refuses settings with options that cannot be used. -/
def check (s : Settings) : Except Failure Settings :=
  match s.matcher.check with
  | .ok () => .ok s
  | .error e => .error (.invalidMatcher e)

/-- The default settings with environment variables on top. -/
def ofEnvironment (env : Environment) : Except Failure Settings :=
  (override {} env).bind check

/-- The settings of the file under a path with environment variables on top;
    `content` is what stands in the file if it can be read. -/
def load (path : Text) (content : Option Text) (env : Environment) : Except Failure Settings :=
  match content with
  | none => .error (.unreadableFile path)
  | some text =>
    match ofFile? text with
    | none => .error (.malformedFile path)
    | some s => (s.override env).bind check

end Settings

end PathRouting
