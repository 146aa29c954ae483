/-
  Routers: route trees behind one entry point.

  * `resolve` answers a path from no bindings, `resolveWith` on top of some.
  * `search` tells in addition what was done on the way.
-/
import PathRouting.Route.Resolution

namespace PathRouting

/-- A route tree behind its entry point. -/
structure Router (R C : Type) where
  root : RouteTree R C

namespace Router

variable {R C : Type}

/-- Searches for the route of a path on top of given bindings. -/
def search (r : Router R C) (path : Text) (context : C) (b : Bindings) : Search R C :=
  r.root.search context [] path b

/-- The answer to a path on top of given bindings. -/
def resolveWith (r : Router R C) (path : Text) (context : C) (b : Bindings) :
    Option (Resolution R) :=
  r.root.resolve path context b

/-- The answer to a path. -/
def resolve (r : Router R C) (path : Text) (context : C) : Option (Resolution R) :=
  r.resolveWith path context .empty

/-- The patterns of a router as they were written. -/
def patterns (r : Router R C) : List Text :=
  r.root.patterns

/-- The printed form of a router. -/
def outline (r : Router R C) : Text :=
  "Router \x7b root: ".toList ++ r.root.outline ++ " \x7d".toList

end Router

end PathRouting
