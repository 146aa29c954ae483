/-
  Matching a pattern against the start of a text.

  * `compile` turns a tree into a matcher: the regular expression of the tree
    behind a `^`, and the slots of its variables.
  * `Options.check` refuses sub-patterns that are no regular expressions or that
    open capturing groups.
  * `Matcher.match?` gives the length of what was matched and the bindings:
    named groups first, then the variables in order, each name bound once.
-/
import PathRouting.Bindings
import PathRouting.Pattern.Cursor
import PathRouting.Pattern.Writing
import PathRouting.Regex.Basic

namespace PathRouting.Pattern

/-- Refuses the first sub-pattern in a list that is no regular expression or
    that opens capturing groups. -/
def Options.checkAll (o : Options) : List SubPattern → Except PatternError Unit
  | [] => .ok ()
  | which :: rest =>
    match Regex.compile false (o.get which) with
    | .error _ => .error (.invalidRegex (o.get which))
    | .ok r =>
      if r.groupCount = 0 then checkAll o rest
      else .error (.capturingSubPattern which (o.get which))

/-- Refuses options with a sub-pattern that is no regular expression or that
    opens capturing groups. -/
def Options.check (o : Options) : Except PatternError Unit :=
  o.checkAll Options.subPatterns

/-- A compiled pattern. -/
structure Matcher where
  regex : Regex
  slots : List Slot

/-- A match of a pattern: the length of the matched text in bytes, and the
    values of the variables. -/
structure PatternMatch where
  consumed : Nat
  bindings : Bindings

namespace Matcher

/-- The text of the regular expression of a source: at the start of the text,
    and as one group. -/
def anchored (s : Source) : Text :=
  "^(?:".toList ++ s.text ++ ")".toList

/-- Binds names to the texts of groups, unless they have a value or the group
    took no part in the match. -/
def bindGroups (c : Regex.Captures) (b : Bindings) : List (Text × Nat) → Bindings
  | [] => b
  | (name, index) :: rest =>
    match c.group? index with
    | some value => bindGroups c (b.insertNew name value) rest
    | none => bindGroups c b rest

/-- The names that a match may bind, each with the number of a group: the named
    groups by number, then the variables in order. -/
def binders (m : Matcher) : List (Text × Nat) :=
  m.regex.groupNames.map (fun (index, name) => (name, index)) ++
    m.slots.map fun s => (s.name, s.index)

/-- Matches a text from its start. -/
def match? (m : Matcher) (t : Text) : Option PatternMatch :=
  (m.regex.captures t).map fun c => ⟨c.consumed, bindGroups c .empty m.binders⟩

/-- Whether a text has a match. -/
def accepts (m : Matcher) (t : Text) : Bool :=
  (m.regex.captures t).isSome

/-- The printed form of a slot. -/
def renderSlot (s : Slot) : Text :=
  "VarSlot \x7b name: ".toList ++ Text.quoted s.name ++ ", slot: ".toList ++
    Text.decimal s.index ++ " \x7d".toList

/-- The printed form of a matcher. -/
def render (m : Matcher) : Text :=
  "CompiledPattern \x7b regex: ".toList ++ Text.quoted m.regex.source ++ ", slots: [".toList ++
    Text.join ", ".toList (m.slots.map renderSlot) ++ "] \x7d".toList

end Matcher

/-- Compiles a tree. The regular expression has to have exactly the capturing
    groups that the source accounts for. -/
def compile (root : Node) (o : Options) : Except PatternError Matcher := do
  o.check
  let s := root.toSource o
  match Regex.compile (!o.caseSensitive) (Matcher.anchored s) with
  | .error _ => .error (.invalidRegex (Matcher.anchored s))
  | .ok r =>
    if r.groupCount = s.groups then .ok ⟨r, s.slots⟩
    else .error (.groupCountMismatch s.groups r.groupCount)

/-- Parses and compiles a pattern. -/
def compilePattern (pattern : Text) (o : Options) : Except PatternError Matcher := do
  compile (← parse pattern) o

end PathRouting.Pattern
