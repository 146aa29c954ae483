/-
  The commands of the program.

  * `Command.execute` carries out a command under given settings and returns
    what it prints.
-/
import PathRouting.Pattern.Template
import PathRouting.Settings.Basic

namespace PathRouting

open Pattern

/-- A command. -/
inductive Command where
  /-- print the tokens of a pattern -/
  | tokens (pattern : Text)
  /-- print the tree of a pattern -/
  | parse (pattern : Text)
  /-- print the regular expression and the slots of a pattern -/
  | compile (pattern : Text) (caseSensitive : Bool)
  /-- match paths against a pattern -/
  | match_ (pattern : Text) (paths : List Text)
  /-- build a path from a pattern and parameters -/
  | build (pattern : Text) (parameters : List (Text × Text))
deriving DecidableEq, Repr

namespace Command

/-- The lines of a list of texts. -/
def lines (ls : List Text) : Text :=
  Text.join ['\n'] ls

/-- The tree of a pattern. -/
def parsed (pattern : Text) : Except Failure Node :=
  (Pattern.parse pattern).mapError (.notParsed pattern)

/-- The matcher of a pattern. -/
def compiled (pattern : Text) (o : Options) : Except Failure Matcher := do
  let root ← parsed pattern
  (Pattern.compile root o).mapError (.notCompiled pattern)

/-- The line of a path: what was matched of it and the values of the variables. -/
def matchLine (m : Matcher) (path : Text) : Text :=
  match m.match? path with
  | some found =>
    path ++ '\t' :: Text.decimal found.consumed ++ '\t' :: found.bindings.toJson.compact
  | none => path ++ "\tno match".toList

/-- The line of a slot. -/
def slotLine (s : Slot) : Text :=
  "slot ".toList ++ Text.decimal s.index ++ ": ".toList ++ s.name

/-- The lines of a matcher. -/
def matcherLines (m : Matcher) (caseSensitive : Bool) : List Text :=
  ("regex: ".toList ++ m.regex.source) ::
    ("case_sensitive: ".toList ++ (if caseSensitive then "true" else "false").toList) ::
    m.slots.map slotLine

/-- Carries out a command; the result is what it prints. -/
def execute (s : Settings) : Command → Except Failure Text
  | .tokens pattern =>
    let (ts, consumed) := Pattern.tokens pattern
    if consumed = pattern.length then .ok (lines (ts.map (·.render)))
    else .error (.notTokenized pattern (.unexpectedSyntax consumed))
  | .parse pattern => (parsed pattern).map fun root => Text.trimEnd root.outline
  | .compile pattern caseSensitive =>
    let o := { s.matcher with caseSensitive := s.matcher.caseSensitive || caseSensitive }
    (compiled pattern o).map fun m => lines (matcherLines m o.caseSensitive)
  | .match_ pattern paths =>
    (compiled pattern s.matcher).map fun m => lines (paths.map (matchLine m))
  | .build pattern parameters => do
    let root ← parsed pattern
    let builder ← (PathBuilder.ofNode root).mapError (.notLowered pattern)
    let b := Bindings.ofList parameters
    match builder.build? b with
    | some path => return path
    | none =>
      let missing := builder.parameters.filter fun p => !p.optional && !b.contains p.name
      throw (.missingParameters pattern (missing.map (·.name)))

end Command

end PathRouting
