/-
  Building a pattern's tree from its tokens.

  The cursor is the place in the unfinished tree where the next token goes: a
  path, in it perhaps a segment, in that perhaps a variable without constraint;
  and around the path the alternations that are still open. A text, a wildcard,
  a raw regular expression or an alternation that meets a variable without
  constraint becomes its constraint.

  * `Cursor.step` takes a token; it fails at a `,` or a `}` outside of
    alternations, and only there.
  * `parse` gives the tree of a pattern.
-/
import PathRouting.Pattern.Error
import PathRouting.Pattern.Node
import PathRouting.Pattern.Scanner

namespace PathRouting.Pattern

/-- A segment to which items are still added: where it starts, where what it
    holds ends, its items last one first, and the variable in front of the
    cursor that has no constraint yet. -/
structure OpenSegment where
  start : Nat
  stop : Nat
  items : List Node
  awaiting : Option (Span × Text)

namespace OpenSegment

/-- The items with the variable that awaits a constraint left without one. -/
def settled (s : OpenSegment) : List Node :=
  match s.awaiting with
  | some (span, name) => .variable span name none :: s.items
  | none => s.items

/-- Adds a node, as the constraint of the awaiting variable if there is one. -/
def attach (s : OpenSegment) (n : Node) : OpenSegment :=
  match s.awaiting with
  | some (span, name) =>
    let v := Node.variable ⟨span.start, n.span.stop⟩ name (some n)
    ⟨s.start, n.span.stop, v :: s.items, none⟩
  | none => ⟨s.start, n.span.stop, n :: s.items, none⟩

/-- Adds a variable, which awaits a constraint. -/
def attachVariable (s : OpenSegment) (span : Span) (name : Text) : OpenSegment :=
  ⟨s.start, span.stop, s.settled, some (span, name)⟩

/-- The finished segment. -/
def close (s : OpenSegment) : Node :=
  .segment ⟨s.start, s.stop⟩ s.settled.reverse

end OpenSegment

/-- A path to which segments are still added: where it starts, whether a
    separator stands in front of its segments, the finished ones last one
    first, and the segment at the cursor. -/
structure OpenPath where
  start : Nat
  absolute : Bool
  segments : List Node
  current : Option OpenSegment

namespace OpenPath

/-- A path without segments at `start`. -/
def empty (start : Nat) : OpenPath := ⟨start, false, [], none⟩

/-- Adds a node to the segment at the cursor, or to a first segment. -/
def attach (p : OpenPath) (n : Node) : OpenPath :=
  match p.current with
  | some s => { p with current := some (s.attach n) }
  | none =>
    let fresh : OpenSegment := ⟨n.span.start, n.span.start, [], none⟩
    { p with start := n.span.start, current := some (fresh.attach n) }

/-- Adds a variable to the segment at the cursor, or to a first segment. -/
def attachVariable (p : OpenPath) (span : Span) (name : Text) : OpenPath :=
  match p.current with
  | some s => { p with current := some (s.attachVariable span name) }
  | none =>
    let fresh : OpenSegment := ⟨span.start, span.start, [], none⟩
    { p with start := span.start, current := some (fresh.attachVariable span name) }

/-- Starts a new segment behind a separator. -/
def separate (p : OpenPath) (span : Span) : OpenPath :=
  let fresh : OpenSegment := ⟨span.start, span.stop, [], none⟩
  match p.current with
  | some s => { p with segments := s.close :: p.segments, current := some fresh }
  | none => { p with start := span.start, absolute := true, current := some fresh }

/-- The finished path. -/
def close (p : OpenPath) : Node :=
  match p.current with
  | some s => .path ⟨p.start, s.stop⟩ p.absolute (s.close :: p.segments).reverse
  | none => .path ⟨p.start, p.start⟩ p.absolute p.segments.reverse

end OpenPath

/-- An alternation that is still open: the path in which it stands, where it
    starts, and its finished branches last one first. -/
structure OpenAlternation where
  outer : OpenPath
  start : Nat
  branches : List Node

/-- The place in the unfinished tree where the next token goes: the path there,
    and the open alternations around it, the innermost first. -/
structure Cursor where
  enclosing : List OpenAlternation
  path : OpenPath

namespace Cursor

/-- The cursor in front of the first token. -/
def initial : Cursor := ⟨[], .empty 0⟩

/-- Adds a finished node. -/
def attach (c : Cursor) (n : Node) : Cursor :=
  { c with path := c.path.attach n }

/-- Takes a token. -/
def step (c : Cursor) (t : Token) : Except PatternError Cursor :=
  match t.lexeme with
  | .text value => .ok (c.attach (.text t.span value))
  | .wildcard greedy => .ok (c.attach (.wildcard t.span greedy))
  | .regexp body => .ok (c.attach (.regexp t.span body))
  | .variable name => .ok { c with path := c.path.attachVariable t.span name }
  | .pathSeparator => .ok { c with path := c.path.separate t.span }
  | .altStart => .ok ⟨⟨c.path, t.span.start, []⟩ :: c.enclosing, .empty t.span.stop⟩
  | .altSeparator =>
    match c.enclosing with
    | [] => .error (.unexpectedAltSeparator t.span.start)
    | a :: rest =>
      .ok ⟨{ a with branches := c.path.close :: a.branches } :: rest, .empty t.span.stop⟩
  | .altEnd =>
    match c.enclosing with
    | [] => .error (.unexpectedAltEnd t.span.start)
    | a :: rest =>
      let n := Node.alternation ⟨a.start, t.span.stop⟩ (c.path.close :: a.branches).reverse
      .ok ⟨rest, a.outer.attach n⟩

end Cursor

/-- The tree of a pattern. An error that a token causes comes before that of
    the place where the scan stopped, and an open alternation comes last. -/
def parse (pattern : Text) : Except PatternError Node := do
  let (ts, consumed) := tokens pattern
  let c ← feed Cursor.step Cursor.initial ts
  if consumed < pattern.length then .error (.unexpectedSyntax consumed)
  else match c.enclosing with
    | [] => .ok c.path.close
    | _ :: _ => .error (.unterminatedAlternation consumed)

end PathRouting.Pattern
