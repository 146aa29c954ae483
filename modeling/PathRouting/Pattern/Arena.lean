/-
  The tree of a pattern in cells that name one another by number.

  Each node has a cell: what it is, with the numbers of the nodes below it, the number of
  the node above it, and the stretch of the pattern that it covers. The number of a cell
  is its place in the list. New cells come last, so that the numbers of nodes follow the
  order in which they were met and not that of the tree.

  * `Arena.lineage` are a node and those above it, `Arena.setEnd` moves the ends of all of
    them, `Arena.nearest?` is the first of them that is of some kind.
  * `Arena.walk` visits the nodes from the root, each before those below it, and
    `Arena.tree?` reads the tree back.
  * `Builder.step` takes a token. The builder has a single cursor, the node that is given
    the next one below it; it goes down into what a token opens, and up along the parents
    when something closes.
  * `Arena.ofPattern` are the cells of a pattern.
-/
import PathRouting.Pattern.Error
import PathRouting.Pattern.Node
import PathRouting.Pattern.Scanner

namespace PathRouting.Pattern

/-! ## Cells -/

/-- What a node is, with the numbers of the nodes below it. -/
inductive Entry where
  | path (segments : List Nat) (absolute : Bool)
  | segment (items : List Nat)
  | alternation (branches : List Nat)
  | variable (name : Text) (constraint : Option Nat)
  | wildcard (greedy : Bool)
  | regexp (body : Text)
  | text (value : Text)
deriving DecidableEq, Repr

namespace Entry

/-- The kind of a node. -/
def kind : Entry → Node.Kind
  | .path .. => .path
  | .segment _ => .segment
  | .alternation _ => .alternation
  | .variable .. => .variable
  | .wildcard _ => .wildcard
  | .regexp _ => .regexp
  | .text _ => .text

/-- The nodes directly below a node; a constraint is below its variable. -/
def below : Entry → List Nat
  | .path ids _ | .segment ids | .alternation ids => ids
  | .variable _ c => c.toList
  | .wildcard _ | .regexp _ | .text _ => []

/-- Adds a node below another one. -/
def add (id : Nat) : Entry → Entry
  | .path ids absolute => .path (ids ++ [id]) absolute
  | .segment ids => .segment (ids ++ [id])
  | .alternation ids => .alternation (ids ++ [id])
  | .variable name _ => .variable name (some id)
  | e => e

end Entry

/-- A node: what it is, the number of the node above it, and the stretch of the pattern
    that it covers. -/
structure Cell where
  entry : Entry
  parent : Option Nat
  span : Span
deriving DecidableEq, Repr

namespace Cell

/-- Adds a node below. -/
def add (c : Cell) (id : Nat) : Cell :=
  { c with entry := c.entry.add id }

/-- Adds a segment behind a separator to a path. In front of all segments it makes the path
    absolute. -/
def addSegment (c : Cell) (id start : Nat) : Cell :=
  match c.entry with
  | .path [] _ => { c with entry := .path [id] true, span := { c.span with start } }
  | _ => c.add id

/-- Names the node above. -/
def setParent (c : Cell) (id : Nat) : Cell :=
  { c with parent := some id }

/-- Moves the start of the stretch. -/
def setStart (c : Cell) (start : Nat) : Cell :=
  { c with span := { c.span with start } }

/-- Moves the end of the stretch. -/
def setStop (c : Cell) (stop : Nat) : Cell :=
  { c with span := { c.span with stop } }

end Cell

/-- The nodes of a tree, each in a cell. The root is in the first one. -/
abbrev Arena := List Cell

namespace Arena

/-- A path without segments. -/
def empty : Arena := [⟨.path [] false, none, ⟨0, 0⟩⟩]

/-- A new cell comes last, so that its number is that of the cells before. -/
def alloc (a : Arena) (c : Cell) : Arena :=
  a ++ [c]

/-- Changes a cell. -/
def update (a : Arena) (id : Nat) (f : Cell → Cell) : Arena :=
  a.modify id f

/-- Puts a node below another one. -/
def link (a : Arena) (id above : Nat) : Arena :=
  (a.update above (·.add id)).update id (·.setParent above)

/-- What a node is. -/
def entryOf? (a : Arena) (id : Nat) : Option Entry :=
  a[id]?.map (·.entry)

/-- The kind of a node. -/
def kind? (a : Arena) (id : Nat) : Option Node.Kind :=
  (a.entryOf? id).map (·.kind)

/-- The node above a node. -/
def parent? (a : Arena) (id : Nat) : Option Nat :=
  a[id]?.bind (·.parent)

/-- A node and the nodes above it, at most as many as given. -/
def lineageWithin (a : Arena) : Nat → Nat → List Nat
  | 0, _ => []
  | fuel + 1, id =>
    id :: match a.parent? id with
      | some above => a.lineageWithin fuel above
      | none => []

/-- A node and the nodes above it, up to the root. There are no more than cells. -/
def lineage (a : Arena) (id : Nat) : List Nat :=
  a.lineageWithin a.length id

/-- Moves the ends of a node and of the nodes above it. -/
def setEnd (a : Arena) (id stop : Nat) : Arena :=
  (a.lineage id).foldl (fun a i => a.update i (·.setStop stop)) a

/-- The nearest node of some kind: the node itself, or one above it. -/
def nearest? (a : Arena) (id : Nat) (kind : Node.Kind) : Option Nat :=
  (a.lineage id).find? fun i => a.kind? i = some kind

/-- Visits a node and what is below it, at most so many levels down. -/
def walkWithin (a : Arena) : Nat → Nat → List Nat
  | 0, _ => []
  | fuel + 1, id =>
    id :: match a.entryOf? id with
      | some e => e.below.flatMap (a.walkWithin fuel)
      | none => []

/-- Visits the nodes of a tree, each before those below it. There are no more levels than
    cells. -/
def walk (a : Arena) : List Nat :=
  a.walkWithin a.length 0

/-- The tree below a node, at most so many levels down. -/
def treeWithin? (a : Arena) : Nat → Nat → Option Node
  | 0, _ => none
  | fuel + 1, id =>
    a[id]?.bind fun c =>
      match c.entry with
      | .path ids absolute => (ids.mapM (a.treeWithin? fuel)).map (.path c.span absolute)
      | .segment ids => (ids.mapM (a.treeWithin? fuel)).map (.segment c.span)
      | .alternation ids => (ids.mapM (a.treeWithin? fuel)).map (.alternation c.span)
      | .variable name (some below) =>
        (a.treeWithin? fuel below).map fun n => .variable c.span name (some n)
      | .variable name none => some (.variable c.span name none)
      | .wildcard greedy => some (.wildcard c.span greedy)
      | .regexp body => some (.regexp c.span body)
      | .text value => some (.text c.span value)

/-- The tree that the cells hold. -/
def tree? (a : Arena) : Option Node :=
  a.treeWithin? a.length 0

end Arena

/-! ## Building -/

/-- Cells under construction: the node that is given the next one, and the number of
    alternations that are open. -/
structure Builder where
  arena : Arena
  cursor : Nat
  altDepth : Nat
deriving DecidableEq, Repr

namespace Builder

/-- The state in front of the first token. -/
def initial : Builder := ⟨.empty, 0, 0⟩

/-- Puts the node `id`, which is in its cell already, below the first of some nodes, which
    are the cursor and the nodes above it. A variable without constraint takes it as its
    constraint, and then the cursor is above the variable; one with a constraint is left
    first. A path is given a segment for the node. -/
def attachTo (b : Builder) (id : Nat) (span : Span) : List Nat → Except PatternError Builder
  | [] => .error (.unexpectedSyntax span.start)
  | cursor :: above =>
    match b.arena.entryOf? cursor with
    | some (.variable _ (some _)) => b.attachTo id span above
    | some (.variable _ none) =>
      match above with
      | [] => .error (.unexpectedSyntax span.start)
      | outer :: _ =>
        .ok { b with arena := (b.arena.link id cursor).setEnd cursor span.stop, cursor := outer }
    | some (.path segments _) =>
      let segment := b.arena.length
      let a := b.arena.alloc ⟨.segment [id], some cursor, ⟨span.start, span.start⟩⟩
      let a := a.update cursor (·.add segment)
      let a := if segments.isEmpty then a.update cursor (·.setStart span.start) else a
      let a := a.update id (·.setParent segment)
      .ok { b with arena := a.setEnd segment span.stop, cursor := segment }
    | some (.segment _) =>
      .ok { b with arena := (b.arena.link id cursor).setEnd cursor span.stop, cursor }
    | _ => .error (.unexpectedSyntax span.start)

/-- Adds a node at the cursor. -/
def push (b : Builder) (entry : Entry) (span : Span) : Except PatternError Builder :=
  let a := b.arena.alloc ⟨entry, none, span⟩
  { b with arena := a }.attachTo b.arena.length span (a.lineage b.cursor)

/-- Adds an empty branch to an alternation, with the cursor in it. -/
def openBranch (b : Builder) (alternation start : Nat) : Builder :=
  let branch := b.arena.length
  let a := b.arena.alloc ⟨.path [] false, some alternation, ⟨start, start⟩⟩
  { b with arena := a.update alternation (·.add branch), cursor := branch }

/-- Leaves a variable at the cursor. -/
def leaveVariable (b : Builder) : Builder :=
  if b.arena.kind? b.cursor = some .variable then
    match b.arena.parent? b.cursor with
    | some above => { b with cursor := above }
    | none => b
  else b

/-- Adds a segment behind a separator to a path, with the cursor in it. -/
def separate (b : Builder) (path : Nat) (span : Span) : Builder :=
  let segment := b.arena.length
  let a := b.arena.alloc ⟨.segment [], some path, span⟩
  let a := a.update path (·.addSegment segment span.start)
  { b with arena := a.setEnd segment span.stop, cursor := segment }

/-- Takes a token. -/
def step (b : Builder) (t : Token) : Except PatternError Builder :=
  match t.lexeme with
  | .text value => b.push (.text value) t.span
  | .wildcard greedy => b.push (.wildcard greedy) t.span
  | .regexp body => b.push (.regexp body) t.span
  | .variable name =>
    (b.leaveVariable.push (.variable name none) t.span).map fun b' =>
      { b' with cursor := b.arena.length }
  | .pathSeparator =>
    match b.arena.nearest? b.cursor .path with
    | none => .error (.unexpectedSyntax t.span.start)
    | some path => .ok (b.separate path t.span)
  | .altStart =>
    (b.push (.alternation []) t.span).map fun b' =>
      { b'.openBranch b.arena.length t.span.stop with altDepth := b'.altDepth + 1 }
  | .altSeparator =>
    match b.arena.nearest? b.cursor .alternation with
    | none => .error (.unexpectedAltSeparator t.span.start)
    | some alternation =>
      let b' := b.openBranch alternation t.span.stop
      .ok { b' with arena := b'.arena.setEnd b'.cursor t.span.stop }
  | .altEnd =>
    match b.arena.nearest? b.cursor .alternation with
    | none => .error (.unexpectedAltEnd t.span.start)
    | some alternation =>
      let a := b.arena.setEnd alternation t.span.stop
      match a.parent? alternation with
      | none => .error (.unexpectedAltEnd t.span.start)
      | some above => .ok ⟨a, above, b.altDepth - 1⟩

end Builder

/-- The cells of a pattern. -/
def Arena.ofPattern (pattern : Text) : Except PatternError Arena :=
  (stream Builder.step Builder.initial pattern).bind fun (b, consumed) =>
    if consumed ≠ pattern.length then .error (.unexpectedSyntax consumed)
    else if b.altDepth ≠ 0 then .error (.unterminatedAlternation consumed)
    else .ok b.arena

end PathRouting.Pattern
