/-
  Finding the route of a path.

  * `RouteTree.search` goes through a tree in order, until a route answers, and
    notes what it does: the patterns tried, the conditions decided and the route
    that answered, each with the place of its node.
  * `RouteTree.resolve` is what the search finds: the answer, and the bindings
    of all patterns on the way down to the route.
  * A choice goes on with one branch only, and a failed child leaves no bindings
    behind.
-/
import PathRouting.Route.Tree

namespace PathRouting

open Pattern

/-- The answer of a route and the bindings that it was given. -/
structure Resolution (R : Type) where
  result : R
  bindings : Bindings
deriving Repr

/-- Where a node stands in a tree: the number of the child at each step down
    from the root. -/
abbrev Place := List Nat

/-- A step of a search. -/
inductive SearchEvent (R C : Type) where
  /-- a pattern was tried on a path -/
  | tried (place : Place) (path : Text)
  /-- a condition was decided -/
  | decided (place : Place) (bindings : Bindings) (context : C) (outcome : Bool)
  /-- a route gave an answer -/
  | answered (place : Place) (bindings : Bindings) (context : C) (result : R)

/-- What a search finds, and its steps. -/
structure Search (R C : Type) where
  found : Option (Resolution R)
  events : List (SearchEvent R C)

namespace Search

variable {R C : Type}

/-- A search that ends at once with nothing found. -/
def nothing : Search R C := ⟨none, []⟩

/-- A search with one more step at its beginning. -/
def after (e : SearchEvent R C) (s : Search R C) : Search R C :=
  ⟨s.found, e :: s.events⟩

/-- A search, and another one if it finds nothing. -/
def orElse (s next : Search R C) : Search R C :=
  match s.found with
  | some r => ⟨some r, s.events⟩
  | none => ⟨next.found, s.events ++ next.events⟩

end Search

namespace RouteTree

variable {R C : Type}

/-- Searches for a route from its pattern: it has to match the whole path. -/
def searchRoute (context : C) (place : Place) (p : RoutePattern) (answer : Bindings → C → R)
    (path : Text) (b : Bindings) : Search R C :=
  match p.match? path with
  | none => ⟨none, [.tried place path]⟩
  | some m =>
    if m.consumed = Text.utf8Length path then
      let bindings := b.extended m.bindings
      let result := answer bindings context
      ⟨some ⟨result, bindings⟩,
        [.tried place path, .answered place bindings context result]⟩
    else ⟨none, [.tried place path]⟩

mutual

/-- Searches a tree for the route of a path. -/
def search (context : C) (place : Place) : RouteTree R C → Text → Bindings → Search R C
  | .route p answer, path, b => searchRoute context place p answer path b
  | .container none children, path, b => searchFirst context place 0 children path b
  | .container (some p) children, path, b =>
    match p.match? path with
    | none => ⟨none, [.tried place path]⟩
    | some m =>
      (searchFirst context place 0 children (Text.dropUtf8 m.consumed path)
        (b.extended m.bindings)).after (.tried place path)
  | .choice condition yes no, path, b =>
    let outcome := condition b context
    (if outcome then searchBranch context (place ++ [0]) yes path b
      else searchBranch context (place ++ [1]) no path b).after
        (.decided place b context outcome)
  | .annotated _ child, path, b => search context (place ++ [0]) child path b

/-- Searches trees in order until one has a route; they are the children of a
    node from child `n` on. -/
def searchFirst (context : C) (place : Place) (n : Nat) :
    List (RouteTree R C) → Text → Bindings → Search R C
  | [], _, _ => .nothing
  | t :: ts, path, b =>
    (search context (place ++ [n]) t path b).orElse (searchFirst context place (n + 1) ts path b)

/-- Searches a branch, if there is one. -/
def searchBranch (context : C) (place : Place) :
    Option (RouteTree R C) → Text → Bindings → Search R C
  | none, _, _ => .nothing
  | some t, path, b => search context place t path b

end

/-- The answer of the first route that has one, on top of given bindings. -/
def resolve (t : RouteTree R C) (path : Text) (context : C) (b : Bindings) :
    Option (Resolution R) :=
  (t.search context [] path b).found

end RouteTree

end PathRouting
