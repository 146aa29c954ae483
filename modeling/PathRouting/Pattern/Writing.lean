/-
  The regular expression of a pattern, written from the start to the end.

  What has been written is a source. Each variable takes the number behind those of all
  groups in front of it, and a raw regular expression takes as many numbers as groups are
  counted in it, so that no slot is moved later.

  * `Node.write` writes a tree behind what has been written.
  * `Node.toSource` writes a tree as a whole.
-/
import PathRouting.Pattern.Source

namespace PathRouting.Pattern

namespace Source

/-- Writes text that opens no groups. -/
def put (text : Text) (s : Source) : Source :=
  { s with text := s.text ++ text }

/-- Writes a configured sub-pattern, in a group of its own if it offers a choice. -/
def putSubPattern (source : Text) (s : Source) : Source :=
  if source.contains '|' then ((s.put "(?:".toList).put source).put ")".toList else s.put source

/-- Takes the numbers of `n` groups. -/
def take (n : Nat) (s : Source) : Source :=
  { s with groups := s.groups + n }

/-- Takes the number of a group for a variable. -/
def declare (name : Text) (s : Source) : Source :=
  { s with slots := s.slots ++ [⟨name, s.groups + 1⟩], groups := s.groups + 1 }

end Source

namespace Node

mutual

/-- Writes a tree. -/
def write (o : Options) : Node → Source → Source
  | .path _ absolute segments, s =>
    writeAll o (Source.putSubPattern o.pathSeparator) segments
      (if absolute then s.putSubPattern o.pathSeparator else s)
  | .segment _ items, s => writeAll o id items s
  | .alternation _ branches, s =>
    (writeAll o (Source.put "|".toList) branches (s.put "(?:".toList)).put ")".toList
  | .variable _ name (some c), s => (c.write o ((s.declare name).put "(".toList)).put ")".toList
  | .variable _ name none, s =>
    (((s.declare name).put "(".toList).put o.unconstrainedVariable).put ")".toList
  | .wildcard _ true, s => s.putSubPattern o.greedyWildcard
  | .wildcard _ false, s => s.putSubPattern o.wildcard
  | .regexp _ body, s => (((s.take (groupCount body)).put "(?:".toList).put body).put ")".toList
  | .text _ value, s => s.put (Regex.escape value)

/-- Writes several trees, and something between any two. -/
def writeAll (o : Options) (between : Source → Source) : List Node → Source → Source
  | [], s => s
  | [n], s => n.write o s
  | n :: m :: ns, s => writeAll o between (m :: ns) (between (n.write o s))

end

/-- The source of a tree, written from the start. -/
def toSource (n : Node) (o : Options) : Source :=
  n.write o (.ofText [])

end Node

end PathRouting.Pattern
