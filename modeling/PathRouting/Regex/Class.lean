/-
  Bracketed classes of regular expressions.

  A class is a union of characters, ranges, named sets and nested classes;
  operators join unions to intersections, differences and symmetric
  differences, from left to right. Besides the set that it stands for, a class
  has a depth: how far its parts are nested.

  * `ClassReader.step` reads one part of a class, with the unfinished classes
    and operators around it on a stack.
  * `readClass` reads the class behind an opening bracket.
-/
import PathRouting.Regex.Atom

namespace PathRouting.Regex

/-- A union that is being read: its set, the number of its members, and the
    greatest depth of a member. -/
structure ClassUnion where
  set : CharSet
  count : Nat
  depth : Nat

namespace ClassUnion

/-- The union without members. -/
def empty : ClassUnion := ⟨.empty, 0, 0⟩

/-- Adds a member of a given depth. -/
def add (u : ClassUnion) (s : CharSet) (depth : Nat) : ClassUnion :=
  ⟨if u.count = 0 then s else u.set.union s, u.count + 1, Nat.max u.depth depth⟩

/-- The depth of a union: that of its only member, or one more than that of its
    members. -/
def totalDepth (u : ClassUnion) : Nat :=
  if u.count ≤ 1 then u.depth else u.depth + 1

end ClassUnion

/-- The operators on sets. -/
inductive SetOperator where
  | intersection | difference | symmetricDifference
deriving DecidableEq, Repr

/-- What an operator makes of two sets. -/
def SetOperator.apply : SetOperator → CharSet → CharSet → CharSet
  | .intersection => .inter
  | .difference => .diff
  | .symmetricDifference => .symmDiff

/-- What is around the union that is being read. -/
inductive ClassFrame where
  /-- an opening bracket, in the union `outer` -/
  | bracket (negated : Bool) (outer : ClassUnion)
  /-- an operator behind its left operand -/
  | operator (op : SetOperator) (left : CharSet) (depth : Nat)

/-- A class that is being read: the union at the end of what was read, and what
    is around it, the innermost first. -/
structure ClassReader where
  frames : List ClassFrame
  current : ClassUnion

/-- A set with what its flags fold into it. -/
def foldSet (f : Flags) (s : CharSet) : CharSet :=
  if !f.caseInsensitive then s
  else if f.unicode then s.folded
  else s.latinFolded

/-- A set as it counts behind its closing bracket. -/
def bracketed (f : Flags) (negated : Bool) (s : CharSet) : Except Rejection CharSet :=
  if !negated then .ok (foldSet f s)
  else if f.unicode then .ok (.compl (foldSet f s))
  else .error .invalidText

/-! ## Members -/

/-- The sets with a name between colons. -/
def namedClass? (name : Text) : Option Unicode.RangeTable :=
  [("alnum", [(0x30, 0x39), (0x41, 0x5A), (0x61, 0x7A)]),
    ("alpha", [(0x41, 0x5A), (0x61, 0x7A)]),
    ("ascii", [(0x00, 0x7F)]),
    ("blank", [(0x09, 0x09), (0x20, 0x20)]),
    ("cntrl", [(0x00, 0x1F), (0x7F, 0x7F)]),
    ("digit", [(0x30, 0x39)]),
    ("graph", [(0x21, 0x7E)]),
    ("lower", [(0x61, 0x7A)]),
    ("print", [(0x20, 0x7E)]),
    ("punct", [(0x21, 0x2F), (0x3A, 0x40), (0x5B, 0x60), (0x7B, 0x7E)]),
    ("space", [(0x09, 0x0D), (0x20, 0x20)]),
    ("upper", [(0x41, 0x5A)]),
    ("word", [(0x30, 0x39), (0x41, 0x5A), (0x5F, 0x5F), (0x61, 0x7A)]),
    ("xdigit", [(0x30, 0x39), (0x41, 0x46), (0x61, 0x66)])].lookup (String.ofList name)

/-- Reads a set such as `:^alpha:]` behind a bracket, if one stands there. -/
def readNamedClass? (t : Text) : Option (Bool × List (Nat × Nat) × Text) :=
  match t with
  | ':' :: rest =>
    let negated := rest.head? = some '^'
    let rest := if negated then rest.drop 1 else rest
    match rest.dropWhile (· ≠ ':') with
    | ':' :: ']' :: more =>
      (namedClass? (rest.takeWhile (· ≠ ':'))).map fun table => (negated, table, more)
    | _ => none
  | _ => none

/-- Reads a character or an escape sequence inside a class. -/
def readMember (f : Flags) : Text → Reading Atom
  | [] => .error .unclosedClass
  | '\\' :: rest => readEscape f rest
  | c :: rest => .ok (.literal c false, rest)

/-- The code point of a literal inside a class; without the flag for it, one of
    a single byte. -/
def literalPoint (f : Flags) (c : Char) (byte : Bool) : Except Rejection Nat :=
  if f.unicode ∨ c.toNat < 0x80 then .ok c.toNat
  else if byte then .error .invalidText
  else .error .notUnicode

/-- Reads a member of a union: a character, a range, or a set with a name. -/
def readRange (f : Flags) (t : Text) : Reading CharSet :=
  (readMember f t).bind fun (a, rest) =>
    match skip f rest with
    | [] => .error .unclosedClass
    | c :: more =>
      if c ≠ '-' ∨ peek f more = some ']' ∨ peek f more = some '-' then
        match a with
        | .literal v byte => (literalPoint f v byte).map fun n => (.single n, c :: more)
        | .set s => .ok (s, c :: more)
        | .look _ => .error .badClass
      else match skip f more with
        | [] => .error .unclosedClass
        | d :: more => (readMember f (d :: more)).bind fun (b, rest) =>
          match a, b with
          | .literal v byte, .literal w byte' =>
            (literalPoint f v byte).bind fun lo => (literalPoint f w byte').bind fun hi =>
              if lo ≤ hi then .ok (.range lo hi, rest) else .error .badRange
          | _, _ => .error .badRange

/-! ## Brackets and operators -/

/-- Reads hyphens, which count as themselves at the start of a class. -/
def readHyphens (f : Flags) (u : ClassUnion) : Nat → Text → ClassUnion × Text
  | 0, t => (u, t)
  | fuel + 1, t => match skip f t with
    | '-' :: rest => readHyphens f (u.add (.single '-'.toNat) 0) fuel rest
    | t => (u, t)

/-- Reads what follows an opening bracket: a caret that negates the class, then
    hyphens, or a closing bracket, which count as themselves there. -/
def openClass (f : Flags) (t : Text) : Bool × ClassUnion × Text :=
  let (negated, t) := match skip f t with
    | '^' :: rest => (true, skip f rest)
    | t => (false, t)
  let (u, t) := readHyphens f .empty (t.length + 1) t
  match u.count, t with
  | 0, ']' :: rest => (negated, u.add (.single ']'.toNat) 0, rest)
  | _, t => (negated, u, t)

namespace ClassReader

/-- The set and the depth of the union at hand, joined to the operator in front
    of it, and the frames that remain. -/
def operand (f : Flags) (r : ClassReader) : CharSet × Nat × List ClassFrame :=
  match r.frames with
  | .operator op left depth :: rest =>
    (op.apply (foldSet f left) (foldSet f r.current.set),
      1 + Nat.max depth r.current.totalDepth, rest)
  | frames => (r.current.set, r.current.totalDepth, frames)

/-- Makes the union at hand the left operand of an operator. -/
def operate (f : Flags) (r : ClassReader) (op : SetOperator) : ClassReader :=
  let (s, depth, frames) := r.operand f
  ⟨.operator op s depth :: frames, .empty⟩

/-- Goes past a closing bracket: to the class around it, or with the set and
    the depth of the whole if there is none. -/
def close (f : Flags) (r : ClassReader) : Except Rejection (ClassReader ⊕ CharSet × Nat) :=
  match r.operand f with
  | (s, depth, .bracket negated outer :: frames) =>
    (bracketed f negated s).map fun s =>
      match frames with
      | [] => .inr (s, depth + 1)
      | _ :: _ => .inl ⟨frames, outer.add s (depth + 1)⟩
  | _ => .error .unclosedClass

/-- Reads one part of a class. -/
def step (f : Flags) (r : ClassReader) (t : Text) :
    Except Rejection ((ClassReader ⊕ CharSet × Nat) × Text) :=
  let go (r : ClassReader) (rest : Text) :
      Except Rejection ((ClassReader ⊕ CharSet × Nat) × Text) :=
    .ok (.inl r, rest)
  match t with
  | [] => .error .unclosedClass
  | '[' :: rest =>
    match readNamedClass? rest with
    | some (negated, table, more) =>
      (bracketed f negated (.table table)).bind fun s =>
        go { r with current := r.current.add s 0 } more
    | none =>
      let (negated, u, more) := openClass f rest
      go ⟨.bracket negated r.current :: r.frames, u⟩ more
  | ']' :: rest => (r.close f).map fun result => (result, rest)
  | '&' :: '&' :: rest => go (r.operate f .intersection) rest
  | '-' :: '-' :: rest => go (r.operate f .difference) rest
  | '~' :: '~' :: rest => go (r.operate f .symmetricDifference) rest
  | t => (readRange f t).bind fun (s, rest) => go { r with current := r.current.add s 0 } rest

/-- Reads parts of a class up to its end; the fuel bounds their number. -/
def run (f : Flags) (r : ClassReader) : Nat → Text → Reading (CharSet × Nat)
  | 0, _ => .error .unclosedClass
  | fuel + 1, t => (r.step f (skip f t)).bind fun (result, rest) =>
    match result with
    | .inl r' => run f r' fuel rest
    | .inr whole => .ok (whole, rest)

end ClassReader

/-- Reads the class behind an opening bracket: its set and its depth. -/
def readClass (f : Flags) (t : Text) : Reading (CharSet × Nat) :=
  let (negated, u, rest) := openClass f t
  ClassReader.run f ⟨[.bracket negated .empty], u⟩ (rest.length + 1) rest

end PathRouting.Regex
