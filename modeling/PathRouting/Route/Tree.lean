/-
  Route trees.

  * A route answers paths that its pattern matches as a whole; a container
    hands what its pattern leaves over to its children, in order; a choice has
    a branch for either outcome of a condition; an annotation adds data.
  * Trees are generic in the results `R` and in the context `C` that conditions
    and routes are given beside the bindings.
  * `walk` visits the nodes of a tree, `patterns` and `payloads` collect from it.
-/
import PathRouting.Route.Pattern

namespace PathRouting

open Pattern

/-- A route tree. -/
inductive RouteTree (R C : Type) where
  /-- answers what the pattern matches as a whole -/
  | route (pattern : RoutePattern) (answer : Bindings → C → R)
  /-- takes off what its pattern matches, if it has one -/
  | container (pattern : Option RoutePattern) (children : List (RouteTree R C))
  /-- goes on with a branch, if there is one -/
  | choice (condition : Bindings → C → Bool) (whenTrue whenFalse : Option (RouteTree R C))
  /-- holds data beside a tree -/
  | annotated (payload : Json) (child : RouteTree R C)

namespace RouteTree

variable {R C : Type}

/-! ## Construction -/

/-- A route from the text of its pattern. -/
def ofPattern (raw : Text) (o : Options) (answer : Bindings → C → R) :
    Except PatternError (RouteTree R C) :=
  (RoutePattern.ofText raw o).map (.route · answer)

/-- A container from the text of its pattern. -/
def partialRoute (raw : Text) (o : Options) (children : List (RouteTree R C)) :
    Except PatternError (RouteTree R C) :=
  (RoutePattern.ofText raw o).map fun p => .container (some p) children

/-- A container without pattern. -/
def index (children : List (RouteTree R C)) : RouteTree R C :=
  .container none children

/-! ## Walks -/

mutual

/-- Visits the nodes of a tree, each before its children; the children of a
    node are left out if `enter` does not hold of it. -/
def walk (enter : RouteTree R C → Bool) : RouteTree R C → List (RouteTree R C)
  | t@(.route ..) => [t]
  | t@(.container _ children) => t :: if enter t then walkAll enter children else []
  | t@(.choice _ yes no) =>
    t :: if enter t then walkBranch enter yes ++ walkBranch enter no else []
  | t@(.annotated _ child) => t :: if enter t then walk enter child else []

/-- Visits trees one after the other. -/
def walkAll (enter : RouteTree R C → Bool) : List (RouteTree R C) → List (RouteTree R C)
  | [] => []
  | t :: ts => walk enter t ++ walkAll enter ts

/-- Visits a branch, if there is one. -/
def walkBranch (enter : RouteTree R C → Bool) : Option (RouteTree R C) → List (RouteTree R C)
  | none => []
  | some t => walk enter t

end

/-- All nodes of a tree, each before its children. -/
def nodes (t : RouteTree R C) : List (RouteTree R C) :=
  t.walk fun _ => true

/-- The pattern of a node, if it has one. -/
def pattern? : RouteTree R C → Option RoutePattern
  | .route p _ => some p
  | .container p _ => p
  | .choice .. | .annotated .. => none

/-- The data of a node, if it has any. -/
def payload? : RouteTree R C → Option Json
  | .annotated payload _ => some payload
  | .route .. | .container .. | .choice .. => none

/-- The patterns of a tree as they were written. -/
def patterns (t : RouteTree R C) : List Text :=
  (t.nodes.filterMap pattern?).map (·.raw)

/-- The data held in a tree. -/
def payloads (t : RouteTree R C) : List Json :=
  t.nodes.filterMap payload?

/-! ## Printing -/

/-- What there is, or that there is nothing. -/
def outlineOption : Option Text → Text
  | none => "None".toList
  | some t => "Some(".toList ++ t ++ [')']

mutual

/-- The printed form of a tree: its patterns and its data. -/
def outline : RouteTree R C → Text
  | .route p _ => "Route \x7b pattern: ".toList ++ Text.quoted p.raw ++ " \x7d".toList
  | .container p children =>
    "Container \x7b pattern: ".toList ++ outlineOption (p.map (Text.quoted ·.raw)) ++
      ", children: [".toList ++ Text.join ", ".toList (outlineAll children) ++ "] \x7d".toList
  | .choice _ yes no =>
    "When \x7b then: ".toList ++ outlineBranch yes ++ ", otherwise: ".toList ++
      outlineBranch no ++ " \x7d".toList
  | .annotated payload child =>
    "Meta \x7b meta: ".toList ++ payload.outline ++ ", child: ".toList ++ outline child ++
      " \x7d".toList

/-- The printed forms of several trees. -/
def outlineAll : List (RouteTree R C) → List Text
  | [] => []
  | t :: ts => outline t :: outlineAll ts

/-- The printed form of a branch. -/
def outlineBranch : Option (RouteTree R C) → Text
  | none => outlineOption none
  | some t => outlineOption (some (outline t))

end

end RouteTree

end PathRouting
