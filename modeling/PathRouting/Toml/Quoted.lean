/-
  Strings in configuration files.

  A string stands between double quotes, with escapes, or between single quotes,
  without; three quotes on either side allow it to go over several lines, and
  line ends are kept as they are written.

  * `Form` says which of the four forms a string has.
  * `Form.read` reads the body of a string and its closing quotes.
-/
import PathRouting.Text.Basic

namespace PathRouting.Toml

/-- Whether a character is a blank inside a line. A carriage return only stands
    before a line feed, and is a blank at the end of its line. -/
def isBlank (c : Char) : Bool :=
  c == ' ' || c == '\t' || c == '\r'

/-- A form of strings: the quote, and whether there are three of them. -/
structure Form where
  quote : Char
  multiline : Bool
deriving DecidableEq, Repr

namespace Form

/-- The number of quotes that close a string. -/
def closing (f : Form) : Nat :=
  if f.multiline then 3 else 1

/-- The number of quotes in a row at which a string is closed in any case: up
    to two quotes may stand before the closing ones if there are three. -/
def longest (f : Form) : Nat :=
  if f.multiline then 5 else 1

/-- Where a reader stands inside a string. -/
inductive State where
  | plain
  /-- behind quotes that may be the closing ones -/
  | quotes (count : Nat)
  /-- behind a backslash -/
  | escape
  /-- inside the digits of a character code -/
  | code (left value : Nat)
  /-- behind a backslash at the end of a line; `line` says that the line has
      ended -/
  | fold (line : Bool)
deriving DecidableEq, Repr

/-- What a reader does at a character. -/
inductive Step where
  /-- goes on with some text read -/
  | more (text : Text) (next : State)
  /-- ends before the character with some text read -/
  | close (text : Text)
  | fail

/-- Whether a character may stand in a string as it is. -/
def plainChar (f : Form) (c : Char) : Bool :=
  c == '\t' || (f.multiline && (c == '\n' || c == '\r')) || (0x20 ≤ c.toNat && c.toNat != 0x7F)

/-- The step at a character that belongs to the text. -/
def plainStep (f : Form) (c : Char) : Step :=
  if c = f.quote then .more [] (.quotes 1)
  else if f.quote = '\x22' ∧ c = '\\' then .more [] .escape
  else if f.plainChar c then .more [c] .plain
  else .fail

/-- The character of a code, unless it is none. -/
def charOfCode (n : Nat) : Option Char :=
  if n < 0xD800 ∨ (0xE000 ≤ n ∧ n < 0x110000) then some (Char.ofNat n) else none

/-- The step behind a backslash. -/
def escapeStep (f : Form) (c : Char) : Step :=
  if c = 'b' then .more ['\x08'] .plain
  else if c = 't' then .more ['\t'] .plain
  else if c = 'n' then .more ['\n'] .plain
  else if c = 'f' then .more ['\x0c'] .plain
  else if c = 'r' then .more ['\r'] .plain
  else if c = 'e' then .more ['\x1b'] .plain
  else if c = '\x22' ∨ c = '\\' then .more [c] .plain
  else if c = 'x' then .more [] (.code 2 0)
  else if c = 'u' then .more [] (.code 4 0)
  else if c = 'U' then .more [] (.code 8 0)
  else if f.multiline ∧ c = '\n' then .more [] (.fold true)
  else if f.multiline ∧ isBlank c then .more [] (.fold false)
  else .fail

/-- The step inside a character code. -/
def codeStep (left value : Nat) (c : Char) : Step :=
  match Text.hexValue? c with
  | none => .fail
  | some d =>
    let value := 16 * value + d
    if 1 < left then .more [] (.code (left - 1) value)
    else match charOfCode value with
      | some c => .more [c] .plain
      | none => .fail

/-- The step of a reader. -/
def step (f : Form) : State → Char → Step
  | .plain, c => f.plainStep c
  | .escape, c => f.escapeStep c
  | .code left value, c => codeStep left value c
  | .fold line, c =>
    if c = '\n' then .more [] (.fold true)
    else if isBlank c then .more [] (.fold line)
    else if line then f.plainStep c
    else .fail
  | .quotes n, c =>
    if n = f.longest then .close (List.replicate (n - f.closing) f.quote)
    else if c = f.quote then .more [] (.quotes (n + 1))
    else if f.closing ≤ n then .close (List.replicate (n - f.closing) f.quote)
    else
      match f.plainStep c with
      | .more text next => .more (List.replicate n f.quote ++ text) next
      | other => other

/-- The text that closes a string at the end of the file. -/
def atEnd (f : Form) : State → Option Text
  | .quotes n => if f.closing ≤ n then some (List.replicate (n - f.closing) f.quote) else none
  | _ => none

/-- Reads the rest of a string; the result is its text and what stands behind
    it. -/
def readFrom (f : Form) : State → Text → Option (Text × Text)
  | s, [] => (f.atEnd s).map fun text => (text, [])
  | s, c :: rest =>
    match f.step s c with
    | .fail => none
    | .close text => some (text, c :: rest)
    | .more text next => (readFrom f next rest).map fun (more, rest) => (text ++ more, rest)

/-- Reads a string behind its opening quotes. A line end right behind three
    quotes does not count. -/
def read (f : Form) (t : Text) : Option (Text × Text) :=
  match f.multiline, t with
  | true, '\n' :: rest | true, '\r' :: '\n' :: rest => f.readFrom .plain rest
  | _, _ => f.readFrom .plain t

end Form

/-- Reads a string of any form; `single` leaves out the forms of several lines. -/
def readString (single : Bool) : Text → Option (Text × Text)
  | '\x22' :: '\x22' :: '\x22' :: rest =>
    if single then none else Form.read ⟨'\x22', true⟩ rest
  | '\x22' :: rest => Form.read ⟨'\x22', false⟩ rest
  | '\'' :: '\'' :: '\'' :: rest =>
    if single then none else Form.read ⟨'\'', true⟩ rest
  | '\'' :: rest => Form.read ⟨'\'', false⟩ rest
  | _ => none

end PathRouting.Toml
