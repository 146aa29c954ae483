/-
  The ways in which a pattern matches at the start of a text.

  They are listed in their order: a run of characters is as long as possible first,
  an alternation lists those of its branches from left to right, and those of a
  sequence go through the ways of its first part, then through those of the next.

  * `Node.ways` are the ways of a tree without raw regular expressions.
  * `Way.result` is the match that a way stands for.
-/
import PathRouting.Pattern.Matcher

namespace PathRouting.Pattern

/-- A way to match at the start of a text: what is taken, what follows it, and the
    variables in order, each with the text for which it stands. -/
structure Way where
  taken : Text
  rest : Text
  bound : List (Text × Text)
deriving DecidableEq, Repr

/-- The match that a way stands for: of the values of one name the first. -/
def Way.result (w : Way) : PatternMatch :=
  ⟨Text.utf8Length w.taken, w.bound.foldl (fun b p => b.insertNew p.1 p.2) .empty⟩

/-- Ways in their order, for any text. -/
abbrev Ways := Text → List Way

namespace Ways

/-- Takes nothing. -/
def stay : Ways :=
  fun t => [⟨[], t, []⟩]

/-- One after the other. -/
def andThen (f g : Ways) : Ways :=
  fun t => (f t).flatMap fun w => (g w.rest).map fun w' =>
    ⟨w.taken ++ w'.taken, w'.rest, w.bound ++ w'.bound⟩

/-- The first, and then the second. -/
def orElse (f g : Ways) : Ways :=
  fun t => f t ++ g t

/-- Binds a variable to what is taken. -/
def bind (name : Text) (f : Ways) : Ways :=
  fun t => (f t).map fun w => { w with bound := (name, w.taken) :: w.bound }

/-- One character. -/
def one (p : Char → Bool) : Ways
  | [] => []
  | c :: t => if p c then [⟨[c], t, []⟩] else []

/-- A run of characters that are not among `stops`, as long as possible first. -/
def run (stops : Text) : Ways
  | [] => [⟨[], [], []⟩]
  | c :: t =>
    (if stops.contains c then [] else (run stops t).map fun w => { w with taken := c :: w.taken }) ++
      [⟨[], c :: t, []⟩]

/-- Whether a character counts as another one: if letter case does not matter, the
    two have the same folded form. -/
def sameChar (caseSensitive : Bool) (c d : Char) : Bool :=
  if caseSensitive then c = d else Unicode.fold c.toNat = Unicode.fold d.toNat

/-- A literal text. -/
def text (caseSensitive : Bool) : Text → Ways
  | [] => stay
  | c :: v => (one (sameChar caseSensitive c)).andThen (text caseSensitive v)

/-- A separator. -/
def slash : Ways :=
  one ('/' = ·)

end Ways

namespace Node

mutual

/-- The ways of a tree. A raw regular expression is given none. -/
def ways (caseSensitive : Bool) : Node → Ways
  | .path _ absolute segments =>
    (if absolute then .slash else Ways.stay).andThen (waysOf caseSensitive .slash segments)
  | .segment _ items => waysOf caseSensitive .stay items
  | .alternation _ branches => waysAny caseSensitive branches
  | .variable _ name (some c) => (c.ways caseSensitive).bind name
  | .variable _ name none => (Ways.run "/?#".toList).bind name
  | .wildcard _ true => Ways.run "?#".toList
  | .wildcard _ false => Ways.run "/?#".toList
  | .regexp .. => fun _ => []
  | .text _ value => Ways.text caseSensitive value

/-- The ways of several trees one after the other, with something between any
    two. -/
def waysOf (caseSensitive : Bool) (between : Ways) : List Node → Ways
  | [] => .stay
  | [n] => n.ways caseSensitive
  | n :: m :: ns =>
    ((n.ways caseSensitive).andThen between).andThen (waysOf caseSensitive between (m :: ns))

/-- The ways of several trees, those of the first one first. -/
def waysAny (caseSensitive : Bool) : List Node → Ways
  | [] => fun _ => []
  | [n] => n.ways caseSensitive
  | n :: m :: ns => (n.ways caseSensitive).orElse (waysAny caseSensitive (m :: ns))

end

mutual

/-- Whether a tree has no raw regular expressions. -/
def rawFree : Node → Bool
  | .path _ _ ns | .segment _ ns | .alternation _ ns => allRawFree ns
  | .variable _ _ (some n) => n.rawFree
  | .regexp .. => false
  | .variable _ _ none | .wildcard .. | .text .. => true

/-- Whether several trees have none. -/
def allRawFree : List Node → Bool
  | [] => true
  | n :: ns => n.rawFree && allRawFree ns

end

end Node

end PathRouting.Pattern
