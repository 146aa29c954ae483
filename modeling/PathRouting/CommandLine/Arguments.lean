/-
  The arguments of the program.

  The first word that is no option names a command; options and further words
  are those of the command. An option `--name value` may be written
  `--name=value`, `-n value`, `-nvalue` and `-n=value`, and `--` ends the
  options.

  * `Invocation.ofArguments` reads the arguments.
  * An option is taken over when the next argument shows that it is complete;
    this decides which of two errors is reported.
-/
import PathRouting.CommandLine.Command

namespace PathRouting

/-- Why arguments are refused, or not carried out. -/
inductive UsageError where
  /-- help was asked for -/
  | helpRequested
  /-- there were no arguments -/
  | noArguments
  | missingCommand
  | unknownCommand
  | unknownArgument
  | missingArgument
  /-- an option has no value -/
  | missingValue
  /-- the value of an option is not well formed -/
  | malformedValue
  /-- an option that has no value was given one -/
  | superfluousValue
  | repeatedOption
deriving DecidableEq, Repr

/-- What the program is asked to do: a command, and the path of a
    configuration file. -/
structure Invocation where
  config : Option Text
  command : Command
deriving DecidableEq, Repr

namespace Arguments

/-! ## Options -/

/-- The options. -/
inductive Switch where
  | config | help | caseSensitive | parameter
deriving DecidableEq, Repr

/-- The commands, and the place before the command. -/
inductive Scope where
  | top | tokens | parse | compile | match_ | build
deriving DecidableEq, Repr

/-- The name of an option behind two dashes. -/
def Switch.long : Switch → Text
  | .config => "config".toList
  | .help => "help".toList
  | .caseSensitive => "case-sensitive".toList
  | .parameter => "param".toList

/-- The name of an option behind one dash. -/
def Switch.short? : Switch → Option Char
  | .config => some 'c'
  | .help => some 'h'
  | .caseSensitive => none
  | .parameter => some 'p'

/-- Whether an option has a value. -/
def Switch.takesValue : Switch → Bool
  | .config | .parameter => true
  | .help | .caseSensitive => false

/-- The options of a command. -/
def Scope.switches : Scope → List Switch
  | .top | .tokens | .parse | .match_ => [.config, .help]
  | .compile => [.config, .help, .caseSensitive]
  | .build => [.config, .help, .parameter]

/-- The command of a name. -/
def Scope.ofName? (name : Text) : Option Scope :=
  if name = "tokens".toList then some .tokens
  else if name = "parse".toList then some .parse
  else if name = "compile".toList then some .compile
  else if name = "match".toList then some .match_
  else if name = "build".toList then some .build
  else none

/-- Whether a command takes one more word behind `n`. -/
def Scope.takesWord (s : Scope) (n : Nat) : Bool :=
  match s with
  | .top => false
  | .match_ => true
  | .tokens | .parse | .compile | .build => n = 0

/-! ## Reading -/

/-- What was read of the arguments of a command. -/
structure Progress where
  scope : Scope
  words : List Text := []
  config : Option Text := none
  caseSensitive : Bool := false
  parameters : List (Text × Text) := []
  /-- an option that is not taken over yet, with its value if that was read -/
  pending : Option (Switch × Option Text) := none
  /-- whether `--` was read -/
  trailing : Bool := false
deriving Repr

/-- The name and the value of a parameter. -/
def parameter? (value : Text) : Option (Text × Text) :=
  match value.takeWhile (· != '='), value.dropWhile (· != '=') with
  | [], _ | _, [] => none
  | name, _ :: value => some (name, value)

namespace Progress

/-- Takes over an option with its value. -/
def apply (p : Progress) (switch : Switch) (value : Text) : Except UsageError Progress :=
  match switch with
  | .help => .error .helpRequested
  | .caseSensitive =>
    if p.caseSensitive then .error .repeatedOption else .ok { p with caseSensitive := true }
  | .config =>
    if p.config.isSome then .error .repeatedOption
    else if value.isEmpty then .error .missingValue
    else .ok { p with config := some value }
  | .parameter =>
    match parameter? value with
    | some pair => .ok { p with parameters := p.parameters ++ [pair] }
    | none => .error .malformedValue

/-- Takes over the option that was read last. -/
def settle (p : Progress) : Except UsageError Progress :=
  match p.pending with
  | none => .ok p
  | some (_, none) => .error .missingValue
  | some (switch, some value) => { p with pending := none }.apply switch value

/-- Whether the next argument may be the value of an option. -/
def awaitsValue (p : Progress) : Bool :=
  !p.trailing && p.pending.any (·.2.isNone)

/-- Reads an option with the value that is written together with it. -/
def readSwitch (p : Progress) (switch : Switch) (attached : Option Text) :
    Except UsageError Progress :=
  p.settle.bind fun p =>
    match switch.takesValue, attached with
    | true, none => .ok { p with pending := some (switch, none) }
    | _, attached => p.apply switch (attached.getD [])

/-- Reads an argument behind two dashes. -/
def readLong (p : Progress) (t : Text) : Except UsageError Progress :=
  let name := t.takeWhile (· != '=')
  let attached := match t.dropWhile (· != '=') with
    | [] => none
    | _ :: value => some value
  match p.scope.switches.find? (·.long = name) with
  | none => .error .unknownArgument
  | some switch =>
    if attached.isSome && !switch.takesValue then .error .superfluousValue
    else p.readSwitch switch attached

/-- Reads an argument behind one dash: options in a row, of which the last one
    may have a value. -/
def readShort (p : Progress) : Text → Except UsageError Progress
  | [] => .ok p
  | c :: rest =>
    match p.scope.switches.find? (·.short? = some c) with
    | none => .error .unknownArgument
    | some switch =>
      if switch.takesValue then
        p.readSwitch switch (match rest with
          | [] => none
          | '=' :: value => some value
          | value => some value)
      else (p.readSwitch switch none).bind fun p => p.readShort rest

/-- Reads a word. -/
def readWord (p : Progress) (t : Text) : Except UsageError Progress :=
  if p.scope.takesWord p.words.length then
    p.settle.map fun p => { p with words := p.words ++ [t] }
  else if p.scope ≠ .top then .error .unknownArgument
  else if p.trailing ∧ ((Scope.ofName? t).isSome ∨ t = "help".toList) then
    .error .unknownArgument
  else .error .unknownCommand

/-- Reads an argument. -/
def read (p : Progress) (t : Text) : Except UsageError Progress :=
  if p.trailing then p.readWord t
  else match t with
    | ['-', '-'] => .ok { p with trailing := true }
    | '-' :: '-' :: name => p.readLong name
    | '-' :: c :: rest => p.readShort (c :: rest)
    | _ =>
      match p.pending with
      | some (switch, none) => .ok { p with pending := some (switch, some t) }
      | _ => p.readWord t

/-- What was read, with the path of a configuration file from the environment
    unless there was one in the arguments. -/
def finish (p : Progress) (env : Option Text) : Except UsageError Progress :=
  p.settle.bind fun p =>
    match p.config, env with
    | none, some path => p.apply .config path
    | _, _ => .ok p

/-- The command of the arguments that were read. -/
def command? (p : Progress) : Option Command :=
  match p.scope, p.words with
  | .tokens, [pattern] => some (.tokens pattern)
  | .parse, [pattern] => some (.parse pattern)
  | .compile, [pattern] => some (.compile pattern p.caseSensitive)
  | .match_, pattern :: path :: paths => some (.match_ pattern (path :: paths))
  | .build, [pattern] => some (.build pattern p.parameters)
  | _, _ => none

end Progress

/-! ## Commands -/

/-- Reads the arguments of a command; `env` is the path of a configuration file
    in the environment. The result is the path from the arguments, and the
    command. -/
def readCommand (env : Option Text) (p : Progress) :
    List Text → Except UsageError (Option Text × Command)
  | [] =>
    (p.finish env).bind fun q =>
      match q.command? with
      | some command => p.settle.map fun p => (p.config, command)
      | none => .error .missingArgument
  | t :: ts => (p.read t).bind fun p => readCommand env p ts

/-- What is answered to `help` with further arguments: the help of a command has
    no arguments of its own. -/
def help : List Text → UsageError
  | [] => .helpRequested
  | [name] =>
    if (Scope.ofName? name).isSome ∨ name = "help".toList then .helpRequested
    else .unknownCommand
  | _ => .unknownCommand

/-- Reads arguments up to the name of a command, and then those of the
    command. -/
def readTop (env : Option Text) (p : Progress) : List Text → Except UsageError Invocation
  | [] =>
    (p.finish env).bind fun p =>
      .error (if p.config.isSome then .missingCommand else .noArguments)
  | t :: ts =>
    let named := !p.trailing && !p.awaitsValue
    if named ∧ t = "help".toList then .error (help ts)
    else match if named then Scope.ofName? t else none with
      | some scope =>
        (readCommand env { scope } ts).bind fun (config, command) =>
          (p.finish env).map fun p => ⟨config.or p.config, command⟩
      | none => (p.read t).bind fun p => readTop env p ts

end Arguments

/-- Reads arguments; `env` is the path of a configuration file in the
    environment. -/
def Invocation.ofArguments (env : Option Text) (arguments : List Text) :
    Except UsageError Invocation :=
  Arguments.readTop env { scope := .top } arguments

end PathRouting
