/-
  Reading configuration files.

  * `readKey` reads a dotted key, `readLiteral` a value, `statements?` all lines
    of a file.
  * `parse?` gives the fields of a file. Readers return what they have read and
    the rest of the text; whatever is not well formed is refused without reason.
-/
import PathRouting.Toml.Document
import PathRouting.Toml.Quoted
import PathRouting.Toml.Scalar

namespace PathRouting.Toml

/-! ## Blanks -/

/-- Whether a character may stand in a comment. -/
def isComment (c : Char) : Bool :=
  c == '\t' || c == '\r' || (0x20 ≤ c.toNat && c.toNat != 0x7F)

/-- The text without blanks at its start. -/
def skipBlanks (t : Text) : Text :=
  t.dropWhile isBlank

/-- The text behind blanks, line ends and comments. -/
def skipLines (inComment : Bool) : Text → Option Text
  | [] => some []
  | c :: rest =>
    if c = '\n' then skipLines false rest
    else if inComment then if isComment c then skipLines true rest else none
    else if isBlank c then skipLines false rest
    else if c = '#' then skipLines true rest
    else some (c :: rest)

/-- The text from the next line end on: only blanks and a comment may come
    before it. -/
def endLine (t : Text) : Option Text :=
  match skipBlanks t with
  | [] => some []
  | '\n' :: rest => some rest
  | '#' :: rest =>
    let rest := rest.dropWhile isComment
    if rest.isEmpty ∨ rest.head? = some '\n' then some rest else none
  | _ => none

/-- Whether each carriage return stands before a line feed. -/
def lineEndsPaired : Text → Bool
  | [] => true
  | '\r' :: '\n' :: rest => lineEndsPaired rest
  | c :: rest => c != '\r' && lineEndsPaired rest

/-! ## Keys -/

/-- Whether a character may stand in a name without quotes. -/
def isBare (c : Char) : Bool :=
  Text.isLatinLetter c || Text.isDigit c || c == '_' || c == '-'

/-- Reads one name of a key. -/
def readName (t : Text) : Option (Text × Text) :=
  match t with
  | '\x22' :: _ | '\'' :: _ => readString true t
  | _ =>
    let name := t.takeWhile isBare
    if name.isEmpty then none else some (name, t.dropWhile isBare)

/-- Reads a key of at most `fuel` names. -/
def readKeyWith : Nat → Text → Option (Key × Text)
  | 0, _ => none
  | fuel + 1, t =>
    match readName t with
    | none => none
    | some (name, rest) =>
      match skipBlanks rest with
      | '.' :: rest =>
        (readKeyWith fuel (skipBlanks rest)).map fun (key, rest) => (name :: key, rest)
      | rest => some ([name], rest)

/-- How many names a key may have. -/
def keyLimit : Nat := 80

/-- Reads a key, and the blanks behind it. -/
def readKey (t : Text) : Option (Key × Text) :=
  readKeyWith keyLimit t

/-- The text behind an equals sign, around which blanks, line ends and comments
    may stand. -/
def skipEquals (t : Text) : Option Text :=
  (skipLines false t).bind fun t => (behind? '=' t).bind (skipLines false)

/-! ## Values -/

/-- Whether a character may stand in a word without quotes. -/
def isWord (c : Char) : Bool :=
  isBare c || c == '+' || c == '.' || c == ':'

/-- Reads a word without quotes; a time of day may stand behind a date and one
    blank. -/
def readWord (t : Text) : Option (Literal × Text) :=
  let word := t.takeWhile isWord
  let rest := t.dropWhile isWord
  let (word, rest) := match date? word, rest with
    | some [], ' ' :: c :: more =>
      if Text.isDigit c then
        (word ++ ' ' :: (c :: more).takeWhile isWord, (c :: more).dropWhile isWord)
      else (word, rest)
    | _, _ => (word, rest)
  (Literal.ofWord? word).map fun literal => (literal, rest)

/-- How deep arrays and inline tables may be nested. -/
def depthLimit : Nat := 80

mutual

/-- Reads a value that may be nested `depth` deep. -/
def readLiteralWith : Nat → Nat → Text → Option (Literal × Text)
  | 0, _, _ => none
  | fuel + 1, depth, t =>
    match t with
    | '\x22' :: _ | '\'' :: _ => (readString false t).map fun (s, rest) => (.string s, rest)
    | '[' :: rest =>
      if depth = 0 then none
      else (readItems fuel (depth - 1) rest).map fun (items, rest) => (.array items, rest)
    | '\x7b' :: rest =>
      if depth = 0 then none
      else (readEntries fuel (depth - 1) rest).map fun (entries, rest) => (.inline entries, rest)
    | _ => readWord t

/-- Reads the items of an array and the bracket that closes it. -/
def readItems : Nat → Nat → Text → Option (List Literal × Text)
  | 0, _, _ => none
  | fuel + 1, depth, t =>
    match skipLines false t with
    | none => none
    | some (']' :: rest) => some ([], rest)
    | some t =>
      match readLiteralWith fuel depth t with
      | none => none
      | some (item, rest) =>
        match skipLines false rest with
        | some (']' :: rest) => some ([item], rest)
        | some (',' :: rest) =>
          (readItems fuel depth rest).map fun (items, rest) => (item :: items, rest)
        | _ => none

/-- Reads the entries of an inline table and the brace that closes it. -/
def readEntries : Nat → Nat → Text → Option (List (Key × Literal) × Text)
  | 0, _, _ => none
  | fuel + 1, depth, t =>
    match skipLines false t with
    | none => none
    | some ('\x7d' :: rest) => some ([], rest)
    | some t =>
      match readKey t with
      | none => none
      | some (key, rest) =>
        match (skipEquals rest).bind (readLiteralWith fuel depth) with
        | none => none
        | some (value, rest) =>
          match skipLines false rest with
          | some ('\x7d' :: rest) => some ([(key, value)], rest)
          | some (',' :: rest) =>
            (readEntries fuel depth rest).map fun (entries, rest) => ((key, value) :: entries, rest)
          | _ => none

end

/-- Reads a value. -/
def readLiteral (t : Text) : Option (Literal × Text) :=
  readLiteralWith (2 * t.length + 1) depthLimit t

/-! ## Files -/

/-- Reads the next line, which is no blank one. -/
def readStatement (t : Text) : Option (Statement × Text) :=
  match t with
  | '[' :: '[' :: rest =>
    match readKey (skipBlanks rest) with
    | some (key, ']' :: ']' :: rest) => (endLine rest).map fun rest => (.element key, rest)
    | _ => none
  | '[' :: rest =>
    match readKey (skipBlanks rest) with
    | some (key, ']' :: rest) => (endLine rest).map fun rest => (.header key, rest)
    | _ => none
  | _ =>
    match readKey t with
    | some (key, '=' :: rest) =>
      (readLiteral (skipBlanks rest)).bind fun (value, rest) =>
        (endLine rest).map fun rest => (.entry key value, rest)
    | _ => none

/-- Reads at most `fuel` lines. -/
def readStatements : Nat → Text → Option (List Statement)
  | 0, _ => none
  | fuel + 1, t =>
    match skipLines false t with
    | none => none
    | some [] => some []
    | some t =>
      match readStatement t with
      | none => none
      | some (s, rest) => (readStatements fuel rest).map (s :: ·)

/-- The lines of a file. A byte order mark at its start does not count. -/
def statements? (t : Text) : Option (List Statement) :=
  if lineEndsPaired t then
    let t := if t.head? = some '\ufeff' then t.tail else t
    readStatements (t.length + 1) t
  else none

/-- The fields of a file, if it is well formed. -/
def parse? (t : Text) : Option Fields :=
  (statements? t).bind fields?

end PathRouting.Toml
