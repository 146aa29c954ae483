/-
  Reading data values.

  * `ofText?` is the value that a text stands for.
  * The fields of an object are put in the order of their names; of two fields
    of one name the later one counts.
-/
import PathRouting.Json.Basic

namespace PathRouting.Json

/-- Whether a character is a blank between the parts of a value. -/
def isBlank (c : Char) : Bool :=
  c == ' ' || c == '\t' || c == '\n' || c == '\r'

/-- The text without blanks at its start. -/
def skipBlanks (t : Text) : Text :=
  t.dropWhile isBlank

/-! ## Strings -/

/-- The character that a letter behind a backslash stands for. -/
def escape? (c : Char) : Option Char :=
  if c = '\x22' ∨ c = '\\' ∨ c = '/' then some c
  else if c = 'b' then some '\x08'
  else if c = 'f' then some '\x0c'
  else if c = 'n' then some '\n'
  else if c = 'r' then some '\r'
  else if c = 't' then some '\t'
  else none

/-- The value of hexadecimal digits. -/
def hexNumber? (digits : Text) : Option Nat :=
  digits.foldlM (fun n c => (Text.hexValue? c).map (16 * n + ·)) 0

/-- The codes of a string up to the quote that closes it, and the rest. A code
    is that of a character or one half of a pair. -/
def readCodes : Text → Option (List Nat × Text)
  | [] => none
  | '\x22' :: rest => some ([], rest)
  | '\\' :: 'u' :: a :: b :: c :: d :: rest =>
    (hexNumber? [a, b, c, d]).bind fun n =>
      (readCodes rest).map fun (codes, rest) => (n :: codes, rest)
  | '\\' :: c :: rest =>
    (escape? c).bind fun c =>
      (readCodes rest).map fun (codes, rest) => (c.toNat :: codes, rest)
  | c :: rest =>
    if c = '\\' ∨ c < ' ' then none
    else (readCodes rest).map fun (codes, rest) => (c.toNat :: codes, rest)

/-- The characters of codes; the two halves of a pair stand next to each other. -/
def ofCodes? : List Nat → Option Text
  | [] => some []
  | high :: rest =>
    if high < 0xD800 ∨ 0xE000 ≤ high then (ofCodes? rest).map (Char.ofNat high :: ·)
    else match rest with
      | [] => none
      | low :: rest =>
        if high < 0xDC00 ∧ 0xDC00 ≤ low ∧ low < 0xE000 then
          let n := 0x10000 + 0x400 * (high - 0xD800) + (low - 0xDC00)
          (ofCodes? rest).map (Char.ofNat n :: ·)
        else none

/-- Reads a string behind its opening quote. -/
def readString (t : Text) : Option (Text × Text) :=
  (readCodes t).bind fun (codes, rest) => (ofCodes? codes).map fun s => (s, rest)

/-! ## Values -/

/-- The fields with one more, or with one replaced. -/
def insertField (name : Text) (value : Json) : List (Text × Json) → List (Text × Json)
  | [] => [(name, value)]
  | (n, v) :: rest =>
    if name = n then (n, value) :: rest
    else if name < n then (name, value) :: (n, v) :: rest
    else (n, v) :: insertField name value rest

mutual

/-- Reads a value. -/
def readValue : Nat → Text → Option (Json × Text)
  | 0, _ => none
  | fuel + 1, t =>
    match skipBlanks t with
    | 'n' :: 'u' :: 'l' :: 'l' :: rest => some (.null, rest)
    | 't' :: 'r' :: 'u' :: 'e' :: rest => some (.bool true, rest)
    | 'f' :: 'a' :: 'l' :: 's' :: 'e' :: rest => some (.bool false, rest)
    | '\x22' :: rest => (readString rest).map fun (s, rest) => (.string s, rest)
    | '[' :: rest =>
      match skipBlanks rest with
      | ']' :: rest => some (.array [], rest)
      | rest => (readItems fuel rest).map fun (items, rest) => (.array items, rest)
    | '\x7b' :: rest =>
      match skipBlanks rest with
      | '\x7d' :: rest => some (.object [], rest)
      | rest => (readFields fuel [] rest).map fun (fields, rest) => (.object fields, rest)
    | t => (Number.read t).map fun (n, rest) => (.number n, rest)

/-- Reads the items of an array, of which there is at least one, and the bracket
    that closes it. -/
def readItems : Nat → Text → Option (List Json × Text)
  | 0, _ => none
  | fuel + 1, t =>
    match readValue fuel t with
    | none => none
    | some (item, rest) =>
      match skipBlanks rest with
      | ']' :: rest => some ([item], rest)
      | ',' :: rest => (readItems fuel rest).map fun (items, rest) => (item :: items, rest)
      | _ => none

/-- Reads further fields of an object, of which there is at least one, and the
    brace that closes it. -/
def readFields : Nat → List (Text × Json) → Text → Option (List (Text × Json) × Text)
  | 0, _, _ => none
  | fuel + 1, fields, t =>
    match skipBlanks t with
    | '\x22' :: rest =>
      match readString rest with
      | none => none
      | some (name, rest) =>
        match skipBlanks rest with
        | ':' :: rest =>
          match readValue fuel rest with
          | none => none
          | some (value, rest) =>
            let fields := insertField name value fields
            match skipBlanks rest with
            | '\x7d' :: rest => some (fields, rest)
            | ',' :: rest => readFields fuel fields rest
            | _ => none
        | _ => none
    | _ => none

end

/-- The value that a text stands for. -/
def ofText? (t : Text) : Option Json :=
  match readValue (2 * t.length + 1) t with
  | some (value, rest) => if (skipBlanks rest).isEmpty then some value else none
  | none => none

end PathRouting.Json
