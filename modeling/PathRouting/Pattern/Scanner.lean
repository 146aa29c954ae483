/-
  Cutting a pattern into tokens.

  The scanner reads one character at a time. Between tokens it may be reading
  bare text, which ends at white space or at a character that starts a token;
  the text is delivered when the token after it is known to be sound.

  * `Scanner.step` reads a character and delivers the tokens that it completes.
  * `tokens` gives all tokens of a pattern and the number of characters read:
    fewer than the pattern has where an unclosed quote, an unclosed raw regular
    expression or a colon without a name stops the scan.
  * `stream` delivers the same tokens to a handler, which may stop the scan.
-/
import PathRouting.Pattern.Token

namespace PathRouting.Pattern

/-- White space between tokens. -/
def isSpace (c : Char) : Bool :=
  c = ' ' || c = '\t' || c = '\r' || c = '\n'

/-- A character that a variable's name may start with. -/
def isNameStart (c : Char) : Bool :=
  Text.isLatinLetter c || c = '$' || c = '_'

/-- A character that a variable's name may go on with. -/
def isNameChar (c : Char) : Bool :=
  isNameStart c || Text.isDigit c

/-- What the scanner is in the middle of. Characters already read stand last
    one first. -/
inductive Mode where
  /-- between tokens, or in bare text -/
  | ready
  /-- after one `*` -/
  | star
  /-- after a `:` -/
  | colon
  /-- in a variable's name -/
  | name (read : Text)
  /-- in quoted text, after a backslash if `escape` -/
  | quote (mark : Char) (escape : Bool) (read : Text)
  /-- in a raw regular expression with `depth` open parentheses of its own,
      after a backslash if `escape` -/
  | regexp (depth : Nat) (escape : Bool) (read : Text)
  /-- stopped at a colon without a name -/
  | stopped
deriving DecidableEq, Repr

/-- The state of a scan: the offset of the next character, where the token
    being read began, the bare text that is waiting (its start, and its
    characters last one first), and the mode. -/
structure Scanner where
  offset : Nat
  start : Nat
  waiting : Option (Nat × Text)
  mode : Mode
deriving DecidableEq, Repr

namespace Scanner

/-- The state before the first character. -/
def initial : Scanner := ⟨0, 0, none, .ready⟩

/-- The waiting text as a token that ends at `stop`. -/
def flush (s : Scanner) (stop : Nat) : List Token :=
  match s.waiting with
  | some (start, read) => [⟨.text read.reverse, ⟨start, stop⟩⟩]
  | none => []

/-- The tokens delivered when the token being read turns out to be `lexeme`,
    which ends at `stop`. -/
def deliver (s : Scanner) (lexeme : Lexeme) (stop : Nat) : List Token :=
  s.flush s.start ++ [⟨lexeme, ⟨s.start, stop⟩⟩]

/-- Reads a character that stands between tokens or in bare text. -/
def openToken (s : Scanner) (c : Char) : List Token × Scanner :=
  let next := s.offset + 1
  let here := { s with start := s.offset }
  let single (lexeme : Lexeme) := (here.deliver lexeme next, ⟨next, next, none, .ready⟩)
  if isSpace c then (s.flush s.offset, ⟨next, next, none, .ready⟩)
  else if c = ':' then ([], ⟨next, s.offset, s.waiting, .colon⟩)
  else if c = '{' then single .altStart
  else if c = '}' then single .altEnd
  else if c = ',' then single .altSeparator
  else if c = '/' then single .pathSeparator
  else if c = '*' then ([], ⟨next, s.offset, s.waiting, .star⟩)
  else if c = '\x22' || c = '\x27' then ([], ⟨next, s.offset, s.waiting, .quote c false []⟩)
  else if c = '(' then ([], ⟨next, s.offset, s.waiting, .regexp 0 false []⟩)
  else
    let (start, read) := s.waiting.getD (s.offset, [])
    ([], ⟨next, next, some (start, c :: read), .ready⟩)

/-- Reads one character. -/
def step (s : Scanner) (c : Char) : List Token × Scanner :=
  let next := s.offset + 1
  let close (lexeme : Lexeme) : List Token × Scanner :=
    (s.deliver lexeme next, ⟨next, next, none, .ready⟩)
  let closeBefore (lexeme : Lexeme) : List Token × Scanner :=
    let (more, s') := openToken ⟨s.offset, s.offset, none, .ready⟩ c
    (s.deliver lexeme s.offset ++ more, s')
  let goOn (mode : Mode) : List Token × Scanner := ([], { s with offset := next, mode })
  match s.mode with
  | .ready => s.openToken c
  | .star => if c = '*' then close (.wildcard true) else closeBefore (.wildcard false)
  | .colon => if isNameStart c then goOn (.name [c]) else goOn .stopped
  | .name read =>
    if isNameChar c then goOn (.name (c :: read)) else closeBefore (.variable read.reverse)
  | .quote mark true read => goOn (.quote mark false (c :: read))
  | .quote mark false read =>
    if c = mark then close (.text read.reverse)
    else if c = '\\' then goOn (.quote mark true read)
    else goOn (.quote mark false (c :: read))
  | .regexp depth true read => goOn (.regexp depth false (c :: read))
  | .regexp depth false read =>
    if c = ')' then
      match depth with
      | 0 => close (.regexp read.reverse)
      | depth + 1 => goOn (.regexp depth false (c :: read))
    else if c = '(' then goOn (.regexp (depth + 1) false (c :: read))
    else goOn (.regexp depth (c = '\\') (c :: read))
  | .stopped => goOn .stopped

/-- The tokens that the end of the pattern completes, and the number of
    characters read. -/
def finish (s : Scanner) : List Token × Nat :=
  match s.mode with
  | .ready => (s.flush s.offset, s.offset)
  | .star => (s.deliver (.wildcard false) s.offset, s.offset)
  | .name read => (s.deliver (.variable read.reverse) s.offset, s.offset)
  | .colon | .quote .. | .regexp .. | .stopped => ([], s.start)

/-- Reads characters one after the other. -/
def run (s : Scanner) : Text → List Token × Scanner
  | [] => ([], s)
  | c :: cs =>
    let (now, s') := s.step c
    let (later, s'') := run s' cs
    (now ++ later, s'')

/-- Reading a concatenation is reading its parts in turn. -/
theorem run_append (s : Scanner) (t u : Text) :
    s.run (t ++ u) = ((s.run t).1 ++ ((s.run t).2.run u).1, ((s.run t).2.run u).2) := by
  induction t generalizing s with
  | nil => simp [run]
  | cons c t ih => simp [run, ih, List.append_assoc]

end Scanner

/-- The tokens of a pattern and the number of characters read. -/
def tokens (pattern : Text) : List Token × Nat :=
  let (read, s) := Scanner.initial.run pattern
  let (rest, consumed) := s.finish
  (read ++ rest, consumed)

/-! ## Streaming -/

variable {σ ε : Type}

/-- Hands tokens to a handler one by one, up to the first error. -/
def feed (handle : σ → Token → Except ε σ) (state : σ) : List Token → Except ε σ
  | [] => .ok state
  | t :: ts => (handle state t).bind fun state' => feed handle state' ts

/-- Reads characters and hands each token to the handler as it is delivered. -/
def streamFrom (handle : σ → Token → Except ε σ) (state : σ) (s : Scanner) :
    Text → Except ε (σ × Nat)
  | [] => (feed handle state s.finish.1).map fun state' => (state', s.finish.2)
  | c :: cs =>
    (feed handle state (s.step c).1).bind fun state' => streamFrom handle state' (s.step c).2 cs

/-- Scans a pattern for a handler: its final state and the number of characters
    read, or the error at which it stopped the scan. -/
def stream (handle : σ → Token → Except ε σ) (state : σ) (pattern : Text) :
    Except ε (σ × Nat) :=
  streamFrom handle state .initial pattern

end PathRouting.Pattern
