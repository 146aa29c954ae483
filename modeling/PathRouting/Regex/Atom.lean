/-
  Escape sequences of regular expressions.

  * `Atom` is what an escape sequence stands for.
  * `readEscape` reads the sequence behind a backslash.
-/
import PathRouting.Regex.Escape
import PathRouting.Regex.Expr
import PathRouting.Regex.Flags
import PathRouting.Unicode.Property

namespace PathRouting.Regex

open Unicode

/-- What an escape sequence stands for. -/
inductive Atom where
  /-- a character, written as a byte in two hexadecimal digits if `byte` -/
  | literal (c : Char) (byte : Bool)
  | look (l : Look)
  | set (s : CharSet)
deriving Repr

/-- A result together with the text that follows what was read. -/
abbrev Reading (α : Type) := Except Rejection (α × Text)

/-! ## Sets with a name -/

/-- A set, or without `unicode` a set of bytes; the complement of the latter
    could match text that is not valid. -/
def complementable (unicode negated : Bool) (full latin : CharSet) : Except Rejection CharSet :=
  if unicode then .ok (if negated then full.compl else full)
  else if negated then .error .invalidText
  else .ok latin

/-- The set of a letter such as `d` in `\d`, if the letter names one. -/
def classOfLetter (f : Flags) (c : Char) : Option (Except Rejection CharSet) :=
  let digits := complementable f.unicode (c = 'D') digitChars (.range 0x30 0x39)
  let blanks := complementable f.unicode (c = 'S') blankChars
    (.table [(0x09, 0x0D), (0x20, 0x20)])
  let words := complementable f.unicode (c = 'W') wordChars latinWordChars
  if c = 'd' ∨ c = 'D' then some digits
  else if c = 's' ∨ c = 'S' then some blanks
  else if c = 'w' ∨ c = 'W' then some words
  else none

/-- The set of a property, under the flags in effect. -/
def classOfProperty (f : Flags) (negated : Bool) (q : PropertyQuery) : Except Rejection CharSet :=
  if !f.unicode then .error .notUnicode
  else match q.table with
    | none => .error .unknownProperty
    | some t =>
      let s : CharSet := if f.caseInsensitive then (CharSet.table t).folded else .table t
      .ok (if negated then s.compl else s)

/-! ## Numbers -/

/-- The character with a given number, if there is one. -/
def charOf? (n : Nat) : Option Char :=
  if h : n.isValidChar then some (Char.ofNatAux n h) else none

/-- Reads `count` hexadecimal digits behind the value `n`, and skips what may be
    skipped before each of them and behind the last. -/
def readDigits (f : Flags) (n : Nat) : Nat → Text → Reading Char
  | 0, t => match charOf? n with
    | some c => .ok (c, skip f t)
    | none => .error .badEscape
  | count + 1, t => match skip f t with
    | [] => .error .badEscape
    | c :: rest => match Text.hexValue? c with
      | some d => readDigits f (16 * n + d) count rest
      | none => .error .badEscape

/-- Reads hexadecimal digits up to a closing brace, behind the value `n` and at
    least one unless `any`; the fuel bounds their number. -/
def readBraced (f : Flags) (n : Nat) (any : Bool) : Nat → Text → Reading Char
  | 0, _ => .error .badEscape
  | fuel + 1, t => match skip f t with
    | [] => .error .badEscape
    | c :: rest =>
      if c = '\x7d' then match any, charOf? n with
        | true, some c => .ok (c, skip f rest)
        | _, _ => .error .badEscape
      else match Text.hexValue? c with
        | some d => readBraced f (16 * n + d) true fuel rest
        | none => .error .badEscape

/-- Reads the digits of a character behind `x`, `u` or `U`. -/
def readHex (f : Flags) (c : Char) (t : Text) : Reading Atom :=
  match skip f t with
  | [] => .error .badEscape
  | d :: rest =>
    if d = '\x7b' then
      (readBraced f 0 false (rest.length + 1) rest).map fun (c, rest) => (.literal c false, rest)
    else
      let count := if c = 'x' then 2 else if c = 'u' then 4 else 8
      (readDigits f 0 count (d :: rest)).map fun (v, rest) =>
        (.literal v (c = 'x' && v.toNat ≤ 0xFF), rest)

/-! ## Properties and edges of words -/

/-- Reads the name of a property up to the closing brace. -/
def readName (f : Flags) (name : Text) : Nat → Text → Reading Text
  | 0, _ => .error .badEscape
  | fuel + 1, t => match skip f t with
    | [] => .error .badEscape
    | c :: rest =>
      if c = '\x7d' then .ok (name.reverse, rest) else readName f (c :: name) fuel rest

/-- The part of a text before the first place where `mark` stands, and the part
    behind it. -/
def splitAt? (mark : Text) : Text → Option (Text × Text)
  | [] => none
  | c :: rest =>
    if mark.isPrefixOf (c :: rest) then some ([], (c :: rest).drop mark.length)
    else (splitAt? mark rest).map fun (a, b) => (c :: a, b)

/-- What the name between braces asks for. The name and the value of a property
    are joined by `!=`, `:` or `=`, all of which mean the same: only the letter
    in front of the braces tells whether the opposite is asked for. -/
def queryOf (name : Text) : PropertyQuery :=
  let parts := ["!=", ":", "="].findSome? fun mark => splitAt? mark.toList name
  match parts with
  | some (n, v) => .valued n v
  | none => .named name

/-- Reads a property behind `p` or `P`. -/
def readProperty (f : Flags) (negated : Bool) (t : Text) : Reading Atom :=
  match skip f t with
  | [] => .error .badEscape
  | c :: rest =>
    if c = '\x7b' then
      (readName f [] (rest.length + 1) rest).bind fun (name, rest) =>
        (classOfProperty f negated (queryOf name)).map fun s => (.set s, rest)
    else if c = '\\' then .error .badEscape
    else (classOfProperty f negated (.named [c])).map fun s => (.set s, skip f rest)

/-- Whether a character can stand in the name of an edge of words. -/
def isEdgeChar (c : Char) : Bool :=
  Text.isLatinLetter c || c = '-'

/-- Reads the characters of the name of an edge, and what may be skipped behind
    each of them. -/
def readEdgeName (f : Flags) (name : Text) : Nat → Text → Text × Text
  | 0, t => (name.reverse, t)
  | fuel + 1, t => match t with
    | c :: rest =>
      if isEdgeChar c then readEdgeName f (c :: name) fuel (skip f rest) else (name.reverse, t)
    | [] => (name.reverse, [])

/-- Reads what follows `\b`: the name of an edge between braces, unless the
    braces hold something else, which is then left for a repetition. -/
def readEdge (f : Flags) (t : Text) : Reading WordEdge :=
  match t with
  | '\x7b' :: rest => match skip f rest with
    | [] => .error .badEscape
    | c :: more =>
      if !isEdgeChar c then .ok (.boundary, t)
      else match readEdgeName f [] (more.length + 1) (c :: more) with
        | (name, '\x7d' :: rest) =>
          if name = "start".toList then .ok (.start, rest)
          else if name = "end".toList then .ok (.stop, rest)
          else if name = "start-half".toList then .ok (.startHalf, rest)
          else if name = "end-half".toList then .ok (.stopHalf, rest)
          else .error .badEscape
        | _ => .error .badEscape
  | _ => .ok (.boundary, t)

/-! ## The escape sequence -/

/-- The control character that a letter names. -/
def controlOf? (c : Char) : Option Char :=
  if c = 'a' then some '\x07'
  else if c = 'f' then some '\x0c'
  else if c = 't' then some '\t'
  else if c = 'n' then some '\n'
  else if c = 'r' then some '\r'
  else if c = 'v' then some '\x0b'
  else none

/-- Whether a backslash makes the character stand for itself: those of one byte
    that are no letters, digits or angle brackets. -/
def isEscapable (c : Char) : Bool :=
  c.toNat < 0x80 && !Text.isLatinLetter c && !Text.isDigit c && c ≠ '<' && c ≠ '>'

/-- Reads the escape sequence behind a backslash. -/
def readEscape (f : Flags) : Text → Reading Atom
  | [] => .error .badEscape
  | c :: rest =>
    if Text.isDigit c then .error .backreference
    else if c = 'x' ∨ c = 'u' ∨ c = 'U' then readHex f c rest
    else if c = 'p' ∨ c = 'P' then readProperty f (c = 'P') rest
    else if isEscapable c then .ok (.literal c false, rest)
    else match classOfLetter f c with
      | some s => s.map fun s => (.set s, rest)
      | none => match controlOf? c with
        | some v => .ok (.literal v false, rest)
        | none =>
          let edge (e : WordEdge) : Reading Atom := .ok (.look (.word e f.unicode), rest)
          if c = 'A' then .ok (.look .textStart, rest)
          else if c = 'z' then .ok (.look .textEnd, rest)
          else if c = 'b' then
            (readEdge f rest).map fun (e, rest) => (.look (.word e f.unicode), rest)
          else if c = 'B' then edge .inside
          else if c = '<' then edge .start
          else if c = '>' then edge .stop
          else .error .badEscape

end PathRouting.Regex
