/-
  How large the automata of an expression are.

  An expression is searched for by two automata that read bytes, one from the
  front and one from the back. An expression is refused if one of them takes
  more memory than `memoryLimit`, so their sizes are computed here without the
  automata themselves.

  * `Automaton` is what has been built of an automaton: the number of states
    and the memory that they need besides their fixed size.
  * `addSet` builds the states for a set of characters. Where parts of these
    states are equal they are shared, as far as a table of bounded size
    remembers them.
  * `addLiterals` builds the states for a choice between texts, which share
    their beginnings.
  * `branches` builds the states for an expression, and `Expr.fits` says whether
    both automata keep within the limit.
-/
import PathRouting.Regex.Expr
import PathRouting.Regex.Utf8
import Std.Data.TreeMap

namespace PathRouting.Regex

/-- How many bytes an automaton may take. -/
def memoryLimit : Nat := 10485760

/-- The two ways to read a text. -/
inductive Direction where
  | forward
  | backward
deriving DecidableEq, Repr

/-- What has been built of an automaton: the number of states, and the bytes
    that they take besides their fixed size. -/
structure Automaton where
  states : Nat
  extra : Nat
deriving DecidableEq, Repr

namespace Automaton

/-- The automaton without states. -/
def empty : Automaton := ⟨0, 0⟩

/-- The bytes that an automaton takes: 32 for each state, and what states with
    several successors take besides. -/
def bytes (a : Automaton) : Nat :=
  32 * a.states + a.extra

/-- An automaton with more states and more bytes, unless it is too large. -/
def add (a : Automaton) (states extra : Nat) : Option Automaton :=
  let a' : Automaton := ⟨a.states + states, a.extra + extra⟩
  if a'.bytes ≤ memoryLimit then some a' else none

/-- Repeats a construction. -/
def times (f : Automaton → Option Automaton) : Nat → Automaton → Option Automaton
  | 0, a => some a
  | n + 1, a => match f a with
    | some a' => times f n a'
    | none => none

end Automaton

/-! ## Sets of characters -/

/-- A step of an automaton: the bytes with which it is taken, and the state to
    which it leads. -/
abbrev Step := ByteRange × Nat

/-- The hash code of a list of numbers. -/
def hashCode (key : List Nat) : UInt64 :=
  key.foldl (fun h n => (h ^^^ n.toUInt64) * 1099511628211) 14695981039346656037

/-- The states that are remembered while a set is built, each under a key that
    tells its steps, in a table of a given number of places. A key takes the
    place of another one if their hash codes fall on it. -/
structure Remembered where
  places : Nat
  table : Std.TreeMap Nat (List Nat × Nat)

namespace Remembered

/-- No states. -/
def none (places : Nat) : Remembered := ⟨places, ∅⟩

/-- The place of a key. -/
def place (r : Remembered) (key : List Nat) : Nat :=
  (hashCode key).toNat % r.places

/-- The state under a key. -/
def find? (r : Remembered) (key : List Nat) : Option Nat :=
  match r.table[r.place key]? with
  | some (key', id) => if key' = key then some id else Option.none
  | Option.none => Option.none

/-- Remembers a state under a key. -/
def insert (r : Remembered) (key : List Nat) (id : Nat) : Remembered :=
  { r with table := r.table.insert (r.place key) (key, id) }

end Remembered

/-- The state of the construction for a set: the automaton, and the states that
    are remembered. -/
structure SetBuilder where
  automaton : Automaton
  remembered : Remembered

namespace SetBuilder

/-- The state under a key: one that is remembered, or a new one that takes so
    many bytes besides its fixed size. -/
def state (b : SetBuilder) (key : List Nat) (extra : Nat) : Option (Nat × SetBuilder) :=
  match b.remembered.find? key with
  | some id => some (id, b)
  | none => (b.automaton.add 1 extra).map fun a =>
    (b.automaton.states, ⟨a, b.remembered.insert key b.automaton.states⟩)

/-! ### From the front

The sequences of byte ranges come in rising order. The states of the last sequence are kept open
while the next one may share its beginning with them; the others are finished, their last states
first. -/

/-- An open state: its finished steps, and the bytes of the step to the next open
    state. -/
structure OpenState where
  steps : List Step
  last : Option ByteRange

/-- The steps of an open state whose last step leads to `next`. -/
def OpenState.close (s : OpenState) (next : Nat) : List Step :=
  match s.last with
  | some r => s.steps ++ [(r, next)]
  | none => s.steps

/-- Finishes open states that follow each other, of which the last one leads to
    `target`. -/
def finish (target : Nat) : List OpenState → SetBuilder → Option (Nat × SetBuilder)
  | [], b => some (target, b)
  | s :: rest, b => (finish target rest b).bind fun (next, b) =>
    let steps := s.close next
    b.state (steps.flatMap fun s => [s.1.1, s.1.2, s.2]) (8 * steps.length)

/-- Adds a sequence to the open states. -/
def addSequence (target : Nat) :
    List OpenState → List ByteRange → SetBuilder → Option (List OpenState × SetBuilder)
  | s :: rest, r :: rs, b =>
    if s.last = some r then
      (addSequence target rest rs b).map fun (rest, b) => (s :: rest, b)
    else (finish target rest b).map fun (next, b) =>
      (⟨s.close next, some r⟩ :: rs.map fun r => ⟨[], some r⟩, b)
  | open_, _, b => some (open_, b)

/-- Adds sequences one after the other and finishes all open states. -/
def addForward (target : Nat) :
    List OpenState → List (List ByteRange) → SetBuilder → Option SetBuilder
  | open_, [], b => (finish target open_ b).map (·.2)
  | open_, s :: rest, b =>
    match addSequence target open_ s b with
    | some (open_, b) => addForward target open_ rest b
    | none => none

/-! ### From the back -/

/-- The last state of a chain that leads to `next` with a sequence of byte
    ranges, the first one at `next`. -/
def chain (next : Nat) : List ByteRange → SetBuilder → Option (Nat × SetBuilder)
  | [], b => some (next, b)
  | r :: rs, b => (b.state [next, r.1, r.2] 0).bind fun (id, b) => chain id rs b

/-- Adds sequences one after the other, each with a way to the last state of its
    chain. -/
def addBackward (target : Nat) : List (List ByteRange) → SetBuilder → Option SetBuilder
  | [], b => some b
  | s :: rest, b =>
    match chain target s b with
    | some (_, b) =>
      match b.automaton.add 0 4 with
      | some a => addBackward target rest { b with automaton := a }
      | none => none
    | none => none

end SetBuilder

/-- The characters of a set as sequences of ranges of bytes. -/
def sequencesOf (s : CharSet) : List (List ByteRange) :=
  s.ranges.flatMap fun r => byteSequences r.1 r.2

/-- Builds the states for a set of characters given as sequences of ranges of
    bytes. Sets of characters of one byte need just one state with steps, and one
    behind it. -/
def addSet (d : Direction) (sequences : List (List ByteRange)) (a : Automaton) :
    Option Automaton :=
  if sequences.all (·.length = 1) then a.add 2 (8 * sequences.length)
  else
    match d with
    | .forward => (a.add 1 0).bind fun a' =>
      (SetBuilder.addForward a.states [⟨[], none⟩] sequences ⟨a', .none 10000⟩).map (·.automaton)
    | .backward => (a.add 2 0).bind fun a' =>
      (SetBuilder.addBackward (a.states + 1) sequences ⟨a', .none 1000⟩).map (·.automaton)

/-! ## Choices between texts -/

/-- Cuts a list of texts behind each one that is empty, and leaves out the empty
    ones: the texts in front of the first of them, and the others. -/
def cutAtEmpty : List (List Nat) → List (List Nat) × List (List (List Nat))
  | [] => ([], [])
  | [] :: rest =>
    let (first, others) := cutAtEmpty rest
    ([], first :: others)
  | t :: rest =>
    let (first, others) := cutAtEmpty rest
    (t :: first, others)

/-- The sections of a list of texts between those that are empty. Empty texts at
    the start count as one. -/
def sections (ts : List (List Nat)) : List (List (List Nat)) :=
  let rest := ts.dropWhile (·.isEmpty)
  let (first, others) := cutAtEmpty rest
  if rest.length < ts.length then [] :: first :: others else first :: others

/-- Adds the states for a choice between texts given as bytes: for each section
    a state with a step for each byte with which its texts start, and one that
    chooses between the sections. The fuel bounds the length of the texts. -/
def addTexts : Nat → List (List Nat) → Automaton → Option Automaton
  | 0, _, a => some a
  | fuel + 1, ts, a =>
    let all := sections ts
    if all.all (·.isEmpty) then some a
    else
      let step (a : Automaton) (texts : List (List Nat)) : Option Automaton :=
        let heads := (texts.filterMap (·.head?)).eraseDups
        (heads.foldlM (fun a h =>
          addTexts fuel ((texts.filter (·.head? = some h)).map (·.drop 1)) a) a).bind fun a =>
          match heads.length with
          | 0 => some a
          | 1 => a.add 1 0
          | n => a.add 1 (8 * n)
      (all.foldlM step a).bind fun a =>
        a.add 1 (4 * ((all.filter (!·.isEmpty)).length + (all.length - 1)))

/-- Builds the states for a choice between texts. -/
def addLiterals (d : Direction) (ts : List Text) (a : Automaton) : Option Automaton :=
  let bytes := ts.map fun t =>
    let b := t.flatMap fun c => utf8Bytes c.toNat
    match d with
    | .forward => b
    | .backward => b.reverse
  (a.add 1 0).bind (addTexts ((bytes.map (·.length)).foldr Nat.max 0 + 1) bytes)

/-! ## Expressions -/

namespace Expr

/-- Whether the last state for an expression is one that goes back in a loop:
    what comes behind it is one more successor of that state. -/
def endsInLoop (d : Direction) : Expr → Bool
  | empty | literal _ | chars _ | look _ | alt _ _ => false
  | group _ _ e => d = .backward && e.endsInLoop d
  | repeated min none _ e => 0 < min || e.consumes
  | repeated min (some max) _ e => min = max && e.endsInLoop d
  | seq a b => match d with
    | .forward => b.endsInLoop d
    | .backward => a.endsInLoop d

/-- The bytes for a way that leads on from the states of an expression. -/
def exitBytes (d : Direction) (e : Expr) : Nat :=
  if e.endsInLoop d then 4 else 0

end Expr

namespace Automaton

/-- Repeats a construction `n` times, with so many bytes between two of them. -/
def timesWith (f : Automaton → Option Automaton) (extra n : Nat) (a : Automaton) :
    Option Automaton :=
  match n with
  | 0 => a.add 1 0
  | n + 1 => (f a).bind (times (fun a => (a.add 0 extra).bind f) n)

end Automaton

/-- Builds the states for a repetition of a construction that reads some text or
    not, with so many bytes for a way that leads on from it. -/
def addRepeated (min : Nat) (max : Option Nat) (consumes : Bool)
    (inner : Automaton → Option Automaton) (exit : Nat) (a : Automaton) : Option Automaton :=
  match min, max with
  | 0, some 1 => ((a.add 1 8).bind inner).bind (·.add 1 exit)
  | 0, none =>
    if consumes then ((a.add 1 4).bind inner).bind (·.add 0 exit)
    else (inner a).bind (·.add 3 (exit + 16))
  | min, none => (Automaton.timesWith inner exit min a).bind (·.add 1 (exit + 4))
  | min, some max =>
    (Automaton.timesWith inner exit min a).bind fun a =>
      if min = max then some a
      else
        let optional (a : Automaton) : Option Automaton := (a.add 1 (exit + 8)).bind inner
        (a.add 1 (if min = 0 then 0 else exit)).bind (Automaton.times optional (max - min))

/-- A branch of a choice: how its states are built, the bytes for a way that
    leads on from them, and the text if the branch is one. -/
structure Branch where
  construct : Automaton → Option Automaton
  exit : Nat
  text : Option Text

namespace Branch

/-- Builds the states for the branches behind the second one. -/
def addRest : List Branch → Automaton → Option Automaton
  | [], a => some a
  | b :: rest, a => match (b.construct a).bind (·.add 0 (4 + b.exit)) with
    | some a => addRest rest a
    | none => none

/-- The texts of branches all of which are texts. -/
def texts? : List Branch → Option (List Text)
  | [] => some []
  | b :: rest => b.text.bind fun t => (texts? rest).map (t :: ·)

/-- Builds the states for a choice. -/
def addAll (d : Direction) (branches : List Branch) (a : Automaton) : Option Automaton :=
  match branches with
  | [] => some a
  | [b] => b.construct a
  | b :: c :: rest => match texts? branches with
    | some ts => addLiterals d ts a
    | none => ((b.construct a).bind c.construct).bind fun a =>
      (a.add 2 (8 + b.exit + c.exit)).bind (addRest rest)

end Branch

/-- The branches of an expression. -/
def branches (d : Direction) : Expr → List Branch
  | .alt x y => ⟨Branch.addAll d (branches d x), x.exitBytes d,
      match x with
      | .literal t => some t
      | _ => none⟩ :: branches d y
  | .empty => [⟨(·.add 1 0), 0, none⟩]
  | .literal t => [⟨(·.add (Text.utf8Length t) 0), 0, some t⟩]
  | .chars s =>
    let sequences := sequencesOf s
    [⟨addSet d sequences, 0, none⟩]
  | .look _ => [⟨(·.add 1 0), 0, none⟩]
  | .group index name e =>
    let inner := Branch.addAll d (branches d e)
    let exit := (Expr.group index name e).exitBytes d
    match d with
    | .forward =>
      [⟨fun a => ((a.add 1 0).bind inner).bind (·.add 1 (e.exitBytes d)), exit, none⟩]
    | .backward => [⟨inner, exit, none⟩]
  | .repeated min max greedy e =>
    let inner := Branch.addAll d (branches d e)
    [⟨addRepeated min max e.consumes inner (e.exitBytes d),
      (Expr.repeated min max greedy e).exitBytes d, none⟩]
  | .seq x y =>
    let first := Branch.addAll d (branches d x)
    let second := Branch.addAll d (branches d y)
    match d with
    | .forward =>
      [⟨fun a => ((first a).bind (·.add 0 (x.exitBytes d))).bind second, y.exitBytes d, none⟩]
    | .backward =>
      [⟨fun a => ((second a).bind (·.add 0 (y.exitBytes d))).bind first, x.exitBytes d, none⟩]

/-- Builds the states for an expression. -/
def build (d : Direction) (e : Expr) : Automaton → Option Automaton :=
  Branch.addAll d (branches d e)

namespace Expr

/-- Whether an expression matches only where a condition holds in front of its
    match, by its form. -/
def startsWith (l : Look) : Expr → Bool
  | empty | literal _ | chars _ => false
  | look l' => l = l'
  | group _ _ e => e.startsWith l
  | repeated min _ _ e => 0 < min && e.startsWith l
  | seq a b => a.startsWith l || (a.isEmptyOnly && b.startsWith l)
  | alt a b => a.startsWith l && b.startsWith l

/-- Whether an expression matches only where a condition holds behind its match,
    by its form. -/
def endsWith (l : Look) : Expr → Bool
  | empty | literal _ | chars _ => false
  | look l' => l = l'
  | group _ _ e => e.endsWith l
  | repeated min _ _ e => 0 < min && e.endsWith l
  | seq a b => b.endsWith l || (b.isEmptyOnly && a.endsWith l)
  | alt a b => a.endsWith l && b.endsWith l

/-- The automaton of an expression, unless it is too large. If a match may
    start anywhere, a loop over all bytes comes first. Reading from the front,
    two states note the ends of the match as a whole. -/
def automaton (d : Direction) (e : Expr) : Option Automaton :=
  let anchored := match d with
    | .forward => e.startsWith .textStart
    | .backward => e.endsWith .textEnd
  (if anchored then Automaton.empty.add 1 0 else Automaton.empty.add 3 16).bind fun a =>
    match d with
    | .forward => ((a.add 1 0).bind (build d e)).bind (·.add 2 (e.exitBytes d))
    | .backward => (build d e a).bind (·.add 1 (e.exitBytes d))

/-- Whether both automata of an expression keep within the limit. -/
def fits (e : Expr) : Bool :=
  (e.automaton .forward).isSome && (e.automaton .backward).isSome

end Expr

end PathRouting.Regex
