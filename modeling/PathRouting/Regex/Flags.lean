/-
  The flags under which a regular expression is read, why one is refused, and
  the white space that is skipped in verbose mode.

  * `Flags.read` reads the flags of a group such as `(?i-x:…)`.
  * `skip` passes over white space and comments, `peek` looks beyond them.
-/
import PathRouting.Text.Blank

namespace PathRouting.Regex

/-- Why a regular expression is refused. -/
inductive Rejection where
  | unclosedGroup
  | unopenedGroup
  | lookAround
  | badGroupName
  | badFlags
  | missingOperand
  | badRepetition
  | badEscape
  | backreference
  | unclosedClass
  | badClass
  | badRange
  | unknownProperty
  /-- characters of more than one byte where only bytes are allowed -/
  | notUnicode
  /-- text that is not valid could match -/
  | invalidText
  | tooDeep
  | tooLarge
deriving DecidableEq, Repr

/-- How letters, lines, white space and characters are treated. -/
structure Flags where
  /-- letter case does not matter -/
  caseInsensitive : Bool := false
  /-- `^` and `$` match at lines too -/
  multiLine : Bool := false
  /-- `.` matches line feeds too -/
  dotAll : Bool := false
  /-- repetitions are lazy where they would be greedy, and the other way round -/
  swapGreed : Bool := false
  /-- lines may end in carriage returns -/
  crlf : Bool := false
  /-- white space and comments are skipped -/
  verbose : Bool := false
  /-- characters of more than one byte are understood -/
  unicode : Bool := true
deriving DecidableEq, Repr

namespace Flags

/-- Sets or clears the flag with a given letter, if there is one. -/
def put (f : Flags) (letter : Char) (value : Bool) : Option Flags :=
  if letter = 'i' then some { f with caseInsensitive := value }
  else if letter = 'm' then some { f with multiLine := value }
  else if letter = 's' then some { f with dotAll := value }
  else if letter = 'U' then some { f with swapGreed := value }
  else if letter = 'u' then some { f with unicode := value }
  else if letter = 'R' then some { f with crlf := value }
  else if letter = 'x' then some { f with verbose := value }
  else none

/-- Reads letters up to a `:` or a `)`: the flags that they leave, whether the
    closing character was a `)`, and what follows it. A `-` clears the flags
    behind it. No letter may occur twice, nor may `-`; a `-` has to be followed
    by a letter, and `)` may not come first. -/
def readFrom (f : Flags) (seen : Text) : Text → Except Rejection (Flags × Bool × Text)
  | [] => .error .badFlags
  | c :: rest =>
    if c = ':' ∨ c = ')' then
      if seen.head? = some '-' ∨ (c = ')' ∧ seen = []) then .error .badFlags
      else .ok (f, c = ')', rest)
    else if seen.contains c then .error .badFlags
    else if c = '-' then readFrom f (c :: seen) rest
    else match f.put c (!seen.contains '-') with
      | some f' => readFrom f' (c :: seen) rest
      | none => .error .badFlags

/-- Reads the flags of a group, up to and with the `:` or `)` behind them. -/
def read (f : Flags) (t : Text) : Except Rejection (Flags × Bool × Text) :=
  readFrom f [] t

end Flags

/-! ## White space and comments -/

mutual

/-- What follows white space and comments. -/
def skipBlank : Text → Text
  | [] => []
  | c :: rest =>
    if Text.isBlank c then skipBlank rest
    else if c = '#' then skipComment rest
    else c :: rest

/-- What follows a comment, which ends with its line, and the blanks after it. -/
def skipComment : Text → Text
  | [] => []
  | c :: rest => if c = '\n' then skipBlank rest else skipComment rest

end

/-- In verbose mode, what follows white space and comments. -/
def skip (f : Flags) (t : Text) : Text :=
  if f.verbose then skipBlank t else t

/-- The character that counts as next when it is asked whether a `-` makes a
    range: in verbose mode the first one behind white space and one `#`. -/
def peek (f : Flags) (t : Text) : Option Char :=
  if f.verbose then
    match t.dropWhile Text.isBlank with
    | '#' :: rest => ((rest.dropWhile Text.isBlank).head?).or t.head?
    | rest => rest.head?.or t.head?
  else t.head?

end PathRouting.Regex
