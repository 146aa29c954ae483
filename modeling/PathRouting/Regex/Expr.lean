/-
  Regular expressions as trees.

  * `Look` are the conditions on a position, `Look.holds` says when one holds.
  * `Expr` are the expressions. `ofSet`, `sequence`, `choice` and `iterate` write
    them in their simplest form: neighbouring characters as one text, a choice
    between single characters as a set, a beginning that all branches of a
    choice share in front of it, and a repetition of nothing as nothing.
  * `Expr.groups` are the capturing groups, and `Expr.places` the places that a match has for
    them.
-/
import PathRouting.Regex.CharSet
import PathRouting.Text.Basic
import PathRouting.Unicode.BinaryProperty
import PathRouting.Unicode.GeneralCategory

namespace PathRouting.Regex

open Unicode

/-! ## Conditions on a position -/

/-- Word characters: letters, marks, decimal digits, connectors and joiners. -/
def wordChars : CharSet :=
  .table (alphabetic ++ joinControl ++
    ["m", "nd", "pc"].flatMap fun name => (generalCategory? name).getD [])

/-- Decimal digits. -/
def digitChars : CharSet :=
  .table ((generalCategory? "nd").getD [])

/-- White space. -/
def blankChars : CharSet :=
  .table whiteSpace

/-- The word characters of one byte. -/
def latinWordChars : CharSet :=
  .table [(0x30, 0x39), (0x41, 0x5A), (0x5F, 0x5F), (0x61, 0x7A)]

/-- Whether a character is a word character, of one byte only unless
    `unicode`. -/
def isWord (unicode : Bool) (c : Char) : Bool :=
  latinWordChars.has c || (unicode && 0x80 ≤ c.toNat && wordChars.has c)

/-- The edges of words. -/
inductive WordEdge where
  /-- between a word character and another -/
  | boundary
  /-- not between a word character and another -/
  | inside
  /-- where a word starts -/
  | start
  /-- where a word stops -/
  | stop
  /-- not behind a word character -/
  | startHalf
  /-- not in front of a word character -/
  | stopHalf
deriving DecidableEq, Repr

/-- Conditions on a position. With `crlf` a line may end in a carriage return,
    a line feed, or both. -/
inductive Look where
  | textStart
  | textEnd
  | lineStart (crlf : Bool)
  | lineEnd (crlf : Bool)
  | word (edge : WordEdge) (unicode : Bool)
deriving DecidableEq, Repr

/-- Whether a condition holds between the characters `before` and `after`, of
    which there is none at an end of the text. -/
def Look.holds (before after : Option Char) : Look → Bool
  | .textStart => before.isNone
  | .textEnd => after.isNone
  | .lineStart false => before.isNone || before == some '\n'
  | .lineStart true =>
    before.isNone || before == some '\n' || (before == some '\r' && after != some '\n')
  | .lineEnd false => after.isNone || after == some '\n'
  | .lineEnd true =>
    after.isNone || after == some '\r' || (after == some '\n' && before != some '\r')
  | .word edge unicode =>
    let b := before.any (isWord unicode)
    let a := after.any (isWord unicode)
    match edge with
    | .boundary => b != a
    | .inside => b == a
    | .start => !b && a
    | .stop => b && !a
    | .startHalf => !b
    | .stopHalf => !a

/-! ## Expressions -/

/-- A regular expression. -/
inductive Expr where
  /-- the empty text -/
  | empty
  /-- a text of one character or more -/
  | literal (t : Text)
  /-- one character of a set -/
  | chars (set : CharSet)
  /-- the empty text where a condition holds -/
  | look (l : Look)
  /-- the capturing group with this number -/
  | group (index : Nat) (name : Option Text) (e : Expr)
  /-- `min` times up to `max` times, as often as possible if `greedy` and as
      seldom as possible otherwise -/
  | repeated (min : Nat) (max : Option Nat) (greedy : Bool) (e : Expr)
  /-- one after the other -/
  | seq (a b : Expr)
  /-- the first, or else the second -/
  | alt (a b : Expr)
deriving DecidableEq, Repr

namespace Expr

/-- Whether an expression matches the empty text only, by its form. -/
def isEmptyOnly : Expr → Bool
  | empty | look _ => true
  | literal t => t.isEmpty
  | chars _ => false
  | group _ _ e => e.isEmptyOnly
  | repeated _ max _ e => max.isSome && e.isEmptyOnly
  | seq a b | alt a b => a.isEmptyOnly && b.isEmptyOnly

/-- The least length of a match, by the form of an expression: none if it has no
    match. -/
def minLength : Expr → Option Nat
  | empty | look _ => some 0
  | literal t => some t.length
  | chars s => if s.isEmpty then none else some 1
  | group _ _ e => e.minLength
  | repeated min _ _ e => e.minLength.map (min * ·)
  | seq a b => a.minLength.bind fun m => b.minLength.map (m + ·)
  | alt a b => a.minLength.bind fun m => b.minLength.map (Nat.min m)

/-- Whether an expression matches, and no empty text, by its form. -/
def consumes (e : Expr) : Bool :=
  e.minLength.any (0 < ·)

/-- The capturing groups with their numbers and names, in the order in which they are opened. A
    group that a repetition `{0}` has taken away is not among them. -/
def groups : Expr → List (Nat × Option Text)
  | empty | literal _ | chars _ | look _ => []
  | group index name e => (index, name) :: e.groups
  | repeated _ _ _ e => e.groups
  | seq a b | alt a b => a.groups ++ b.groups

/-- Gives a group the place of its number, unless that is taken. Between the last place and the
    new one stand places without names. -/
def enter (places : List (Option Text)) (group : Nat × Option Text) : List (Option Text) :=
  if group.1 < places.length then places
  else places ++ List.replicate (group.1 - places.length) none ++ [group.2]

/-- The places that a match has for groups, with the names of those that have one. The first is
    that of the match as a whole. A group that was taken away keeps its place if one behind it is
    left: there are three places for `(a){0}(b)`, and two for `(a)(b){0}`. -/
def places (e : Expr) : List (Option Text) :=
  e.groups.foldl enter [none]

/-- How many places there are besides that of the match as a whole. This is not how many groups
    are left, but the number of the last one. -/
def groupCount (e : Expr) : Nat :=
  e.places.length - 1

/-- The places with names, in order. -/
def namedPlaces (places : List (Option Text)) : List (Nat × Text) :=
  places.zipIdx.filterMap fun (name, index) => name.map (index, ·)

/-- The capturing groups with names, by number. -/
def groupNames (e : Expr) : List (Nat × Text) :=
  namedPlaces e.places

/-! ### Simplest forms -/

/-- One character of a set. -/
def ofSet (s : CharSet) : Expr :=
  match s.member? with
  | some c => .literal [c]
  | none => .chars s

/-- The parts of a sequence. -/
def parts : Expr → List Expr
  | empty => []
  | seq a b => a :: b.parts
  | e => [e]

/-- A sequence of parts none of which is a sequence or empty. -/
def ofParts : List Expr → Expr
  | [] => .empty
  | [e] => e
  | e :: es => .seq e (ofParts es)

/-- Joins neighbouring texts. -/
def joinLiterals : List Expr → List Expr
  | [] => []
  | literal t :: es =>
    match joinLiterals es with
    | literal u :: rest => literal (t ++ u) :: rest
    | rest => literal t :: rest
  | e :: es => e :: joinLiterals es

/-- Expressions one after the other. -/
def sequence (es : List Expr) : Expr :=
  ofParts (joinLiterals (es.flatMap parts))

/-- The branches of a choice. -/
def branches : Expr → List Expr
  | alt a b => a :: b.branches
  | e => [e]

/-- A choice between branches none of which is a choice. -/
def ofBranches : List Expr → Expr
  | [] => .chars .empty
  | [e] => e
  | e :: es => .alt e (ofBranches es)

/-- The set of an expression that matches single characters only, by its
    form. -/
def set? : Expr → Option CharSet
  | literal [c] => some (.single c.toNat)
  | chars s => some s
  | _ => none

/-- The union of the sets of expressions that all match single characters
    only. -/
def unionSet? : List Expr → Option CharSet
  | [] => some .empty
  | e :: es => e.set?.bind fun s => (unionSet? es).map s.union

/-- The longest list with which both of two lists begin. -/
def commonPrefix : List Expr → List Expr → List Expr
  | a :: as, b :: bs => if a = b then a :: commonPrefix as bs else []
  | _, _ => []

/-- The parts with which all of some expressions begin; none unless all of them
    are sequences. -/
def sharedParts (es : List Expr) : List Expr :=
  let lists := es.map parts
  if lists.any (·.length ≤ 1) then []
  else match lists with
    | [] => []
    | ps :: rest => rest.foldl commonPrefix ps

/-- A choice between expressions, the first one preferred. What all branches
    begin with comes in front of the choice; the fuel bounds how often. -/
def choiceWith : Nat → List Expr → Expr
  | 0, es => ofBranches (es.flatMap branches)
  | fuel + 1, es =>
    match es.flatMap branches with
    | [] => .chars .empty
    | [e] => e
    | es =>
      match unionSet? es with
      | some s => ofSet s
      | none =>
        match sharedParts es with
        | [] => ofBranches es
        | shared =>
          let rests := es.map fun e => ofParts (e.parts.drop shared.length)
          sequence (shared ++ [choiceWith fuel rests])

/-- The number of parts of an expression. -/
def size : Expr → Nat
  | empty | literal _ | chars _ | look _ => 1
  | group _ _ e | repeated _ _ _ e => 1 + e.size
  | seq a b | alt a b => 1 + a.size + b.size

/-- A choice between expressions, the first one preferred. -/
def choice (es : List Expr) : Expr :=
  choiceWith ((es.map size).foldr (· + ·) 0 + 1) es

/-- A repetition. Of an expression that matches the empty text only, one is as
    good as many; none is the empty text, and exactly one is the expression
    itself. -/
def iterate (min : Nat) (max : Option Nat) (greedy : Bool) (e : Expr) : Expr :=
  let (min, max) :=
    if e.isEmptyOnly then (Nat.min min 1, some (Nat.min (max.getD 1) 1)) else (min, max)
  if min = 0 ∧ max = some 0 then .empty
  else if min = 1 ∧ max = some 1 then e
  else .repeated min max greedy e

end Expr

end PathRouting.Regex
