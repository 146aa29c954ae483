/-
  Reading regular expressions.

  The reader goes from left to right with the items of the sequence at hand,
  the finished alternatives in front of it, and the groups that are open
  around it.

  * `Reader.step` reads one construct.
  * `read` gives the expression of a text, or why it is refused. Besides what
    the constructs themselves forbid, an expression may not be nested deeper
    than `depthLimit`.
-/
import PathRouting.Regex.Class
import PathRouting.Text.Letter

namespace PathRouting.Regex

/-- How deep an expression may be nested. -/
def depthLimit : Nat := 250

/-- An item of a sequence: its expression, its depth, and whether it only sets
    flags, so that no repetition may follow. -/
structure Item where
  expr : Expr
  depth : Nat
  directive : Bool

/-- A sequence that is being read, and the finished alternatives in front of it
    with their depths; both last one first. -/
structure Level where
  items : List Item
  branches : List (Expr × Nat)

namespace Level

/-- A level at which nothing has been read. -/
def empty : Level := ⟨[], []⟩

/-- Adds an item. -/
def push (l : Level) (e : Expr) (depth : Nat) : Level :=
  { l with items := ⟨e, depth, false⟩ :: l.items }

/-- The sequence at hand as an expression, and its depth. -/
def sequence (l : Level) : Expr × Nat :=
  (.sequence (l.items.reverse.map (·.expr)),
    match l.items with
    | [] => 0
    | [i] => i.depth
    | items => 1 + (items.map (·.depth)).foldr Nat.max 0)

/-- Ends the sequence at hand; what follows is another alternative. -/
def split (l : Level) : Level :=
  ⟨[], l.sequence :: l.branches⟩

/-- All alternatives as one expression, and its depth. -/
def close (l : Level) : Expr × Nat :=
  match l.branches with
  | [] => l.sequence
  | branches =>
    let all := (l.sequence :: branches).reverse
    (.choice (all.map (·.1)), 1 + (all.map (·.2)).foldr Nat.max 0)

end Level

/-- A group that is open: the level in which it stands, the flags that hold
    behind it, and its number and name if it captures. -/
structure OpenGroup where
  outer : Level
  flags : Flags
  capture : Option (Nat × Option Text)

/-- The state of the reader: the flags in effect, the level at hand, the open
    groups around it, the innermost first, the number of capturing groups met,
    and the names that they have. -/
structure Reader where
  flags : Flags
  level : Level
  enclosing : List OpenGroup
  groups : Nat
  names : List Text

namespace Reader

/-- The reader in front of a text. -/
def initial (flags : Flags) : Reader := ⟨flags, .empty, [], 0, []⟩

/-- Adds an item to the level at hand. -/
def push (r : Reader) (e : Expr) (depth : Nat) : Reader :=
  { r with level := r.level.push e depth }

/-! ## Groups -/

/-- Whether a character may stand in the name of a group. -/
def isGroupNameChar (first : Bool) (c : Char) : Bool :=
  c = '_' || Text.isAlphabetic c ||
    (!first && (c = '.' || c = '[' || c = ']' || Text.isNumeric c))

/-- Opens a group that does not capture, under its own flags. -/
def openPlain (r : Reader) (flags : Flags) : Reader :=
  { r with
    flags
    level := .empty
    enclosing := ⟨r.level, r.flags, none⟩ :: r.enclosing }

/-- Opens a capturing group. -/
def openCapture (r : Reader) (name : Option Text) : Reader :=
  { r with
    level := .empty
    enclosing := ⟨r.level, r.flags, some (r.groups + 1, name)⟩ :: r.enclosing
    groups := r.groups + 1
    names := name.toList ++ r.names }

/-- Reads the name of a group, which ends at a `>`. -/
def openNamed (r : Reader) (t : Text) : Except Rejection (Reader × Text) :=
  match t.takeWhile (· ≠ '>'), t.dropWhile (· ≠ '>') with
  | c :: cs, '>' :: rest =>
    let name := c :: cs
    if !isGroupNameChar true c || !cs.all (isGroupNameChar false) then .error .badGroupName
    else if r.names.contains name then .error .badGroupName
    else .ok (r.openCapture (some name), rest)
  | _, _ => .error .badGroupName

/-- Reads flags, either of a group or of the rest of the group at hand. -/
def openFlags (r : Reader) (t : Text) : Except Rejection (Reader × Text) :=
  (r.flags.read t).map fun (flags, directive, rest) =>
    if directive then
      let items := ⟨.empty, 0, true⟩ :: r.level.items
      ({ r with flags, level := { r.level with items } }, rest)
    else (r.openPlain flags, rest)

/-- Reads what follows an opening parenthesis. -/
def openGroup (r : Reader) (t : Text) : Except Rejection (Reader × Text) :=
  match skip r.flags t with
  | '?' :: '=' :: _ | '?' :: '!' :: _ | '?' :: '<' :: '=' :: _ | '?' :: '<' :: '!' :: _ =>
    .error .lookAround
  | '?' :: 'P' :: '<' :: rest => r.openNamed rest
  | '?' :: '<' :: rest => r.openNamed rest
  | '?' :: rest => r.openFlags rest
  | rest => .ok (r.openCapture none, rest)

/-- Goes past a closing parenthesis. -/
def closeGroup (r : Reader) : Except Rejection Reader :=
  match r.enclosing with
  | [] => .error .unopenedGroup
  | g :: rest =>
    let (e, depth) := r.level.close
    let e := match g.capture with
      | some (index, name) => Expr.group index name e
      | none => e
    .ok { r with flags := g.flags, level := g.outer.push e (depth + 1), enclosing := rest }

/-! ## Repetitions -/

/-- Repeats the last item. -/
def iterate (r : Reader) (min : Nat) (max : Option Nat) (greedy : Bool) : Except Rejection Reader :=
  match r.level.items with
  | ⟨e, depth, false⟩ :: items =>
    let e := e.iterate min max (greedy != r.flags.swapGreed)
    .ok { r with level := { r.level with items := ⟨e, depth + 1, false⟩ :: items } }
  | _ => .error .missingOperand

/-- Reads a `?`, which makes a repetition lazy: whether there is none, and what
    follows. -/
def readGreed : Text → Bool × Text
  | '?' :: rest => (false, rest)
  | t => (true, t)

/-- Reads decimal digits, and what may be skipped behind each of them, behind the
    digits already read; the fuel bounds their number. -/
def readDecimalDigits (f : Flags) (read : Text) : Nat → Text → Text × Text
  | 0, t => (read.reverse, t)
  | fuel + 1, t => match t with
    | c :: rest =>
      if Text.isDigit c then readDecimalDigits f (c :: read) fuel (skip f rest)
      else (read.reverse, t)
    | [] => (read.reverse, [])

/-- Reads a number between white space: none if there are no digits. -/
def readCount (f : Flags) (t : Text) : Except Rejection (Option Nat × Text) :=
  let (digits, rest) := readDecimalDigits f [] (t.length + 1) (t.dropWhile Text.isBlank)
  let rest := match rest with
    | c :: more => if Text.isBlank c then skip f (more.dropWhile Text.isBlank) else rest
    | [] => []
  if digits = [] then .ok (none, rest)
  else
    let n := Text.readDecimal digits
    if n < Nat.pow 2 32 then .ok (some n, rest) else .error .badRepetition

/-- Reads the counts of a repetition behind an opening brace: the least and, if
    there is one, the greatest number, and what follows the closing brace. -/
def readCounts (f : Flags) (t : Text) : Except Rejection ((Nat × Option Nat) × Text) :=
  (readCount f (skip f t)).bind fun (least, rest) =>
    match least, rest with
    | some n, '\x7d' :: rest => .ok ((n, some n), rest)
    | some n, ',' :: rest =>
      match skip f rest with
      | '\x7d' :: rest => .ok ((n, none), rest)
      | rest => (readCount f rest).bind fun (greatest, rest) =>
        match greatest, rest with
        | some m, '\x7d' :: rest =>
          if n ≤ m then .ok ((n, some m), rest) else .error .badRepetition
        | _, _ => .error .badRepetition
    | _, _ => .error .badRepetition

/-- Reads a repetition behind an opening brace. -/
def iterateCounted (r : Reader) (t : Text) : Except Rejection (Reader × Text) :=
  if r.level.items.head?.all (·.directive) then .error .missingOperand
  else (readCounts r.flags t).bind fun ((min, max), rest) =>
    let (greedy, rest) := readGreed (skip r.flags rest)
    (r.iterate min max greedy).map fun r' => (r', rest)

/-! ## Single characters and conditions -/

/-- The set of `.` under the flags in effect. -/
def dot (f : Flags) : Except Rejection CharSet :=
  if !f.unicode then .error .invalidText
  else if f.dotAll then .ok (.range 0 0x10FFFF)
  else if f.crlf then .ok (CharSet.ofList [0x0A, 0x0D]).compl
  else .ok (CharSet.single 0x0A).compl

/-- Adds what an escape sequence stands for. -/
def pushAtom (r : Reader) (a : Atom) : Except Rejection Reader :=
  match a with
  | .literal c byte =>
    if !r.flags.unicode ∧ byte ∧ 0x80 ≤ c.toNat then .error .invalidText
    else .ok (r.push (.ofSet (.ofLiteral r.flags.caseInsensitive r.flags.unicode c)) 0)
  | .look l => .ok (r.push (.look l) 0)
  | .set s => .ok (r.push (.ofSet s) 0)

/-- The condition of `^` under the flags in effect. -/
def lineStart (f : Flags) : Look :=
  if f.multiLine then .lineStart f.crlf else .textStart

/-- The condition of `$` under the flags in effect. -/
def lineEnd (f : Flags) : Look :=
  if f.multiLine then .lineEnd f.crlf else .textEnd

/-! ## The whole -/

/-- Reads the construct that starts with `c`. -/
def step (r : Reader) (c : Char) (rest : Text) : Except Rejection (Reader × Text) :=
  let repeatWith (min : Nat) (max : Option Nat) : Except Rejection (Reader × Text) :=
    let (greedy, rest) := readGreed rest
    (r.iterate min max greedy).map fun r' => (r', rest)
  if c = '(' then r.openGroup rest
  else if c = ')' then r.closeGroup.map fun r' => (r', rest)
  else if c = '|' then .ok ({ r with level := r.level.split }, rest)
  else if c = '[' then
    (readClass r.flags rest).map fun ((s, depth), rest) => (r.push (.ofSet s) depth, rest)
  else if c = '?' then repeatWith 0 (some 1)
  else if c = '*' then repeatWith 0 none
  else if c = '+' then repeatWith 1 none
  else if c = '\x7b' then r.iterateCounted rest
  else if c = '\\' then
    (readEscape r.flags rest).bind fun (a, rest) => (r.pushAtom a).map fun r' => (r', rest)
  else if c = '.' then (dot r.flags).map fun s => (r.push (.ofSet s) 0, rest)
  else if c = '^' then .ok (r.push (.look (lineStart r.flags)) 0, rest)
  else if c = '$' then .ok (r.push (.look (lineEnd r.flags)) 0, rest)
  else (r.pushAtom (.literal c false)).map fun r' => (r', rest)

/-- Reads constructs up to the end of the text; the fuel bounds their number. -/
def run (r : Reader) (fuel : Nat) (t : Text) : Except Rejection Reader :=
  match skip r.flags t with
  | [] => .ok r
  | c :: rest =>
    match fuel with
    | 0 => .error .tooLarge
    | fuel + 1 => (r.step c rest).bind fun (r', rest) => run r' fuel rest

end Reader

/-- The expression of a text under the flags that hold at its start. -/
def read (flags : Flags) (t : Text) : Except Rejection Expr :=
  ((Reader.initial flags).run t.length t).bind fun r =>
    match r.enclosing with
    | _ :: _ => .error .unclosedGroup
    | [] =>
      let (e, depth) := r.level.close
      if depthLimit < depth then .error .tooDeep
      else .ok e

end PathRouting.Regex
