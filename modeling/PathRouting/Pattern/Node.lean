/-
  The tree of a parsed pattern.

  A path is a list of segments, a segment a list of items, and an alternation
  a list of paths; a variable may have an item as its constraint. The tree of a
  pattern is a path.

  * `Node.size` counts nodes, `Node.variableNames` lists the variables in
    order, `Node.outline` prints a tree one node a line.
  * `Node.walk` visits nodes before their children and may leave children out.
-/
import PathRouting.Pattern.Token

namespace PathRouting.Pattern

/-- A node of a pattern's tree, with the stretch of the pattern that it covers. -/
inductive Node where
  /-- segments with separators between them, and one in front if `absolute` -/
  | path (span : Span) (absolute : Bool) (segments : List Node)
  /-- what stands between two separators -/
  | segment (span : Span) (items : List Node)
  /-- one of several paths -/
  | alternation (span : Span) (branches : List Node)
  /-- a variable, and what it may stand for if that is constrained -/
  | variable (span : Span) (name : Text) (constraint : Option Node)
  /-- `*`, or `**` if `greedy` -/
  | wildcard (span : Span) (greedy : Bool)
  /-- a raw regular expression -/
  | regexp (span : Span) (body : Text)
  /-- literal text -/
  | text (span : Span) (value : Text)
deriving Repr

namespace Node

/-- The stretch of the pattern that a node covers. -/
def span : Node → Span
  | .path s _ _ | .segment s _ | .alternation s _ | .variable s _ _ | .wildcard s _ | .regexp s _
  | .text s _ => s

/-- The kinds of nodes. -/
inductive Kind where
  | path | segment | alternation | variable | wildcard | regexp | text
deriving DecidableEq, Repr

/-- The kind of a node. -/
def kind : Node → Kind
  | .path .. => .path
  | .segment .. => .segment
  | .alternation .. => .alternation
  | .variable .. => .variable
  | .wildcard .. => .wildcard
  | .regexp .. => .regexp
  | .text .. => .text

/-- The nodes directly below a node; a constraint is below its variable. -/
def children : Node → List Node
  | .path _ _ ns | .segment _ ns | .alternation _ ns => ns
  | .variable _ _ (some n) => [n]
  | _ => []

mutual

/-- The number of nodes of a tree. -/
def size : Node → Nat
  | .path _ _ ns | .segment _ ns | .alternation _ ns => 1 + sizes ns
  | .variable _ _ (some n) => 1 + n.size
  | .variable _ _ none | .wildcard .. | .regexp .. | .text .. => 1

/-- The number of nodes of several trees. -/
def sizes : List Node → Nat
  | [] => 0
  | n :: ns => n.size + sizes ns

end

mutual

/-- The names of the variables in the order in which they stand, repetitions
    included. -/
def variableNames : Node → List Text
  | .path _ _ ns | .segment _ ns | .alternation _ ns => namesOf ns
  | .variable _ name (some n) => name :: n.variableNames
  | .variable _ name none => [name]
  | .wildcard .. | .regexp .. | .text .. => []

/-- The names of the variables of several trees. -/
def namesOf : List Node → List Text
  | [] => []
  | n :: ns => n.variableNames ++ namesOf ns

end

/-! ## Walks -/

/-- A node met on a walk: how many nodes above it were met, and the node right
    above it. -/
structure Visit where
  depth : Nat
  node : Node
  parent : Option Node

mutual

/-- Visits a node, and then its children in order if `enter` holds of it. -/
def walkFrom (enter : Node → Bool) (depth : Nat) (parent : Option Node) : Node → List Visit
  | n@(.path _ _ ns) | n@(.segment _ ns) | n@(.alternation _ ns) =>
    ⟨depth, n, parent⟩ :: if enter n then walkAll enter (depth + 1) n ns else []
  | n@(.variable _ _ (some c)) =>
    ⟨depth, n, parent⟩ :: if enter n then walkFrom enter (depth + 1) (some n) c else []
  | n@(.variable _ _ none) | n@(.wildcard ..) | n@(.regexp ..) | n@(.text ..) =>
    [⟨depth, n, parent⟩]

/-- Visits the children of `parent` one after the other. -/
def walkAll (enter : Node → Bool) (depth : Nat) (parent : Node) : List Node → List Visit
  | [] => []
  | n :: ns => walkFrom enter depth (some parent) n ++ walkAll enter depth parent ns

end

/-- Visits the nodes of a tree, each before its children; the children of a
    node are left out if `enter` does not hold of it. -/
def walk (enter : Node → Bool) (root : Node) : List Visit :=
  walkFrom enter 0 none root

/-- The literal texts of a tree in order. -/
def texts (root : Node) : List Text :=
  (root.walk fun _ => true).filterMap fun v =>
    match v.node with
    | .text _ value => some value
    | _ => none

/-! ## Printing -/

/-- What a tree's outline says of one node. -/
def label : Node → Text
  | .path s absolute _ =>
    "Path ".toList ++ s.render ++ if absolute then " absolute".toList else []
  | .segment s _ => "Segment ".toList ++ s.render
  | .alternation s _ => "Alt ".toList ++ s.render
  | .variable s name _ => "Variable ".toList ++ s.render ++ ' ' :: name
  | .wildcard s greedy =>
    "Wildcard ".toList ++ s.render ++ if greedy then " greedy".toList else []
  | .regexp s body =>
    "RegExp ".toList ++ s.render ++ ' ' :: Text.quoted body ++ " groups=".toList ++
      Text.decimal (groupCount body)
  | .text s value => "Text ".toList ++ s.render ++ ' ' :: Text.quoted value

/-- A tree with one node a line, children two spaces further in. -/
def outline (root : Node) : Text :=
  (root.walk fun _ => true).flatMap fun v =>
    List.replicate (2 * v.depth) ' ' ++ v.node.label ++ ['\n']

end Node

end PathRouting.Pattern
