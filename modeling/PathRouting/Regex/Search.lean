/-
  Searching for an expression in a text.

  The search tries the choices of an expression in their order and goes back to
  the last one that is left where it fails. Every place where a search has to
  choose carries a label of its own, in a repetition one for every round, except
  that the copies of the body of an endless repetition share theirs; what has to
  be matched behind a label depends on the label only. So a choice is not made
  twice at one position: what the second visit could find, the first has found
  or has failed to find, and a search takes time in proportion to the size of
  the expression and the length of the text.

  * `Task` is something that is still to be matched, and `Task.reduce` says what
    it comes down to.
  * `Search.step` does one task or goes back to a choice; `explore` searches
    from one position.
  * `Expr.search` searches from one position after the other.
-/
import PathRouting.Regex.Expr
import Std.Data.TreeSet

namespace PathRouting.Regex

/-! ## Labels -/

/-- The number of labels of an expression. -/
def Expr.labels : Expr → Nat
  | empty | literal _ | chars _ | look _ => 0
  | group _ _ e => e.labels
  | repeated min none _ e => min * e.labels + (if 0 < min then 1 else 2 + e.labels)
  | repeated min (some max) _ e => min * e.labels + (max - min) * (1 + e.labels)
  | seq a b => a.labels + b.labels
  | alt a b => 1 + a.labels + b.labels

/-- Something that is still to be matched. The labels of a task start with the
    one that is given. -/
inductive Task where
  /-- an expression -/
  | expr (e : Expr) (label : Nat)
  /-- so many copies of an expression -/
  | copies (n : Nat) (e : Expr) (label : Nat)
  /-- up to so many copies of an expression -/
  | upTo (n : Nat) (greedy : Bool) (e : Expr) (label : Nat)
  /-- any number of copies of an expression, which all have the labels from
      `inner` on -/
  | loop (greedy : Bool) (e : Expr) (label inner : Nat)
  /-- the empty text; its position is noted under a number -/
  | save (slot : Nat)
deriving Repr

/-! ## The state of a search -/

/-- A position in a text: how many characters are in front of it, the last of
    them, and those that follow. -/
structure Place where
  pos : Nat
  before : Option Char
  rest : Text

/-- The positions that were noted, the last one first. -/
abbrev Saves := List (Nat × Nat)

/-- What a search has found: the positions noted, and where the match ends. -/
structure Found where
  saves : Saves
  stop : Nat
deriving DecidableEq, Repr

/-- A choice to which a search may go back. -/
structure Alternative where
  todo : List Task
  place : Place
  saves : Saves

/-- The choices that were made, by label and position. -/
abbrev Visited := Std.TreeSet (Nat × Nat) lexOrd.compare

/-- What follows a text that stands at a place. -/
def Place.skip (p : Place) : Text → Option Place
  | [] => some p
  | c :: t => match p.rest with
    | d :: rest => if c = d then Place.skip ⟨p.pos + 1, some d, rest⟩ t else none
    | [] => none

/-- What a task comes down to: other tasks to be matched one after the other, a
    choice under a label between two lists of them, the first one preferred, or
    a single step in the text. -/
inductive Reduction where
  | all (tasks : List Task)
  | choose (label : Nat) (first second : List Task)
  | step (move : Place → Option Place)
  | note (slot : Nat)

/-- A choice between some tasks and none. -/
def Reduction.optional (label : Nat) (greedy : Bool) (tasks : List Task) : Reduction :=
  if greedy then .choose label tasks [] else .choose label [] tasks

/-- What matches one character of a set. -/
def Place.one (s : CharSet) (p : Place) : Option Place :=
  match p.rest with
  | c :: rest => if s.has c then some ⟨p.pos + 1, some c, rest⟩ else none
  | [] => none

/-- What matches the empty text where a condition holds. -/
def Place.test (l : Look) (p : Place) : Option Place :=
  if l.holds p.before p.rest.head? then some p else none

/-- What a task comes down to. An endless repetition of an expression that can
    match the empty text tries the expression once before the choice to go on or
    not, so that an empty round ends the loop. -/
def Task.reduce : Task → Reduction
  | .save slot => .note slot
  | .copies 0 _ _ => .all []
  | .copies (n + 1) e label => .all [.expr e label, .copies n e (label + e.labels)]
  | .upTo 0 _ _ _ => .all []
  | .upTo (n + 1) greedy e label =>
    .optional label greedy [.expr e (label + 1), .upTo n greedy e (label + 1 + e.labels)]
  | .loop greedy e label inner =>
    .optional label greedy [.expr e inner, .loop greedy e label inner]
  | .expr e label =>
    match e with
    | .empty => .all []
    | .literal t => .step (·.skip t)
    | .chars s => .step (Place.one s)
    | .look l => .step (Place.test l)
    | .group index _ e => .all [.save (2 * index), .expr e label, .save (2 * index + 1)]
    | .seq a b => .all [.expr a label, .expr b (label + a.labels)]
    | .alt a b => .choose label [.expr a (label + 1)] [.expr b (label + 1 + a.labels)]
    | .repeated min (some max) greedy e =>
      .all [.copies min e label, .upTo (max - min) greedy e (label + min * e.labels)]
    | .repeated 0 none greedy e =>
      if e.consumes then .all [.loop greedy e label (label + 2)]
      else .optional label greedy
        [.expr e (label + 2), .loop greedy e (label + 1) (label + 2)]
    | .repeated (min + 1) none greedy e =>
      let last := label + min * e.labels
      .all [.copies min e label, .expr e (last + 1), .loop greedy e last (last + 1)]

/-! ## The search -/

/-- The state of a search: the tasks that are left, one after the other, the
    place and the positions noted, the alternatives in their order, and the
    choices made. -/
structure Search where
  todo : List Task
  place : Place
  saves : Saves
  others : List Alternative
  visited : Visited

/-- How a search goes on. -/
inductive Outcome where
  | running (s : Search)
  | found (f : Found)
  | failed (v : Visited)

namespace Search

/-- Goes back to the next alternative. -/
def goBack (s : Search) : Outcome :=
  match s.others with
  | [] => .failed s.visited
  | o :: others => .running ⟨o.todo, o.place, o.saves, others, s.visited⟩

/-- Makes a choice, unless it was made before. -/
def choose (s : Search) (label : Nat) (first second : List Task) : Outcome :=
  if s.visited.contains (label, s.place.pos) then s.goBack
  else .running { s with
    todo := first
    others := ⟨second, s.place, s.saves⟩ :: s.others
    visited := s.visited.insert (label, s.place.pos) }

/-- Does the first task. -/
def step (s : Search) : Outcome :=
  match s.todo with
  | [] => .found ⟨s.saves, s.place.pos⟩
  | task :: todo =>
    match task.reduce with
    | .all tasks => .running { s with todo := tasks ++ todo }
    | .note slot => .running { s with todo, saves := (slot, s.place.pos) :: s.saves }
    | .step move => match move s.place with
      | some place => .running { s with todo, place }
      | none => s.goBack
    | .choose label first second => s.choose label (first ++ todo) (second ++ todo)

/-- Does one task after the other. The fuel bounds the number of steps. -/
def run : Nat → Search → Option Found × Visited
  | 0, s => (none, s.visited)
  | fuel + 1, s => match s.step with
    | .running s => run fuel s
    | .found f => (some f, ∅)
    | .failed v => (none, v)

end Search

/-- Searches for an expression at a place. The fuel bounds the number of
    steps. -/
def explore (fuel : Nat) (e : Expr) (p : Place) (v : Visited) : Option Found × Visited :=
  Search.run fuel ⟨[.expr e 0], p, [], [], v⟩

/-- A match: where it starts, and what was found. -/
structure Match where
  start : Nat
  found : Found
deriving DecidableEq, Repr

/-- Searches from a place on: at it, or else at the next one. -/
def searchFrom (fuel : Nat) (e : Expr) (pos : Nat) (before : Option Char) :
    Text → Visited → Option Match
  | [], v => (explore fuel e ⟨pos, before, []⟩ v).1.map (⟨pos, ·⟩)
  | c :: rest, v =>
    match explore fuel e ⟨pos, before, c :: rest⟩ v with
    | (some found, _) => some ⟨pos, found⟩
    | (none, v) => searchFrom fuel e (pos + 1) (some c) rest v

/-- The most steps that a search for an expression takes without a choice made
    for the first time. -/
def Expr.steps : Expr → Nat
  | empty | literal _ | chars _ | look _ => 1
  | group _ _ e => 3 + e.steps
  | repeated min max _ e => 4 + (Nat.max min (max.getD 0) + 1) * (e.steps + 1)
  | seq a b | alt a b => 1 + a.steps + b.steps

/-- Steps enough for any search: between two choices that are made for the first
    time a search takes no more steps than the expression has, and goes back no
    more often than there are choices; there is one for each label and
    position. -/
def stepBound (e : Expr) (width : Nat) : Nat :=
  (e.labels * width + 1) * (2 * e.steps + 4) + 1

/-- Searches for an expression in a text: the match that starts first, and of
    those the one whose choices come first. -/
def Expr.search (e : Expr) (t : Text) : Option Match :=
  searchFrom (stepBound e (t.length + 1)) e 0 none t ∅

end PathRouting.Regex
