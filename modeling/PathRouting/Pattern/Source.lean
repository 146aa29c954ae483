/-
  The regular expression of a pattern.

  A pattern becomes the text of a regular expression and a list of slots: for
  each variable the number of the capturing group that holds its value. Sources
  are put together by `++`, which shifts the slots of the second part by the
  groups of the first, so that the source of a tree is built from those of its
  parts.

  * `Node.source` is the source of a tree under given options.
-/
import PathRouting.Pattern.Node
import PathRouting.Pattern.Options
import PathRouting.Regex.Escape

namespace PathRouting.Pattern

/-- A variable and the number of its capturing group. -/
structure Slot where
  name : Text
  index : Nat
deriving DecidableEq, Repr

/-- The text of a regular expression, the slots of its variables in order, and
    the number of capturing groups that it accounts for. -/
structure Source where
  text : Text
  slots : List Slot
  groups : Nat
deriving DecidableEq, Repr

namespace Source

/-- Text that opens no capturing groups. -/
def ofText (text : Text) : Source := ⟨text, [], 0⟩

/-- Slots moved behind `n` more groups. -/
def shift (n : Nat) (slots : List Slot) : List Slot :=
  slots.map fun s => { s with index := n + s.index }

/-- One source behind the other. -/
protected def append (a b : Source) : Source :=
  ⟨a.text ++ b.text, a.slots ++ shift a.groups b.slots, a.groups + b.groups⟩

instance : Append Source := ⟨Source.append⟩

/-- Sources in order with a separator between any two. -/
def join (separator : Source) : List Source → Source
  | [] => ofText []
  | [s] => s
  | s :: ss => s ++ separator ++ join separator ss

/-- A source inside a group that does not capture. -/
def group (s : Source) : Source :=
  ofText "(?:".toList ++ s ++ ofText ")".toList

/-- A source inside the capturing group of a variable. -/
def capture (name : Text) (s : Source) : Source :=
  ⟨"(".toList, [⟨name, 1⟩], 1⟩ ++ s ++ ofText ")".toList

/-- A configured sub-pattern, in a group of its own if it offers a choice. -/
def subPattern (source : Text) : Source :=
  if source.contains '|' then group (ofText source) else ofText source

end Source

namespace Node

mutual

/-- The source of a tree. -/
def source (o : Options) : Node → Source
  | .path _ absolute segments =>
    let separator := Source.subPattern o.pathSeparator
    (if absolute then separator else .ofText []) ++ Source.join separator (sources o segments)
  | .segment _ items => Source.join (.ofText []) (sources o items)
  | .alternation _ branches =>
    Source.group (Source.join (.ofText "|".toList) (sources o branches))
  | .variable _ name (some c) => Source.capture name (c.source o)
  | .variable _ name none => Source.capture name (.ofText o.unconstrainedVariable)
  | .wildcard _ true => Source.subPattern o.greedyWildcard
  | .wildcard _ false => Source.subPattern o.wildcard
  | .regexp _ body => Source.group ⟨body, [], groupCount body⟩
  | .text _ value => .ofText (Regex.escape value)

/-- The sources of several trees. -/
def sources (o : Options) : List Node → List Source
  | [] => []
  | n :: ns => n.source o :: sources o ns

end

end Node

end PathRouting.Pattern
