/-
  Reading a pattern for a sink.

  A sink has a handler for each kind of token. What a handler may do is up to a monad: it may
  change a state, for instance, and fail, which ends the reading.

  * `takeName`, `takeQuoted` and `takeRegexp` look ahead to the end of a token.
  * `tokenize` reads a pattern by its offsets and calls the handlers on the way. Where bare text
    ends at a token, there are two calls: one for the text and one for the token. Where the
    token is not sound, there is none, and the reading ends.
-/
import PathRouting.Pattern.Scanner

namespace PathRouting.Pattern

/-! ## Looking ahead -/

/-- The number of characters in the name at the start of a text, if there is one. -/
def takeName : Text → Option Nat
  | [] => none
  | c :: rest => if isNameStart c then some (1 + (rest.takeWhile isNameChar).length) else none

/-- The value of quoted text behind its first mark, and the number of characters up to behind
    its second one. A backslash makes the next character literal. -/
def takeQuoted (mark : Char) : Text → Option (Text × Nat)
  | [] => none
  | c :: rest =>
    if c = mark then some ([], 1)
    else if c = '\\' then
      match rest with
      | [] => none
      | d :: rest => (takeQuoted mark rest).map fun (value, n) => (d :: value, n + 2)
    else (takeQuoted mark rest).map fun (value, n) => (c :: value, n + 1)

/-- The number of capturing groups that a raw regular expression opens and the number of
    characters in it, up to the parenthesis that closes it; `depth` more are open. -/
def takeRegexp (depth : Nat) : Text → Option (Nat × Nat)
  | [] => none
  | c :: rest =>
    if c = ')' then
      match depth with
      | 0 => some (0, 0)
      | depth + 1 => (takeRegexp depth rest).map fun (groups, n) => (groups, n + 1)
    else if c = '(' then
      (takeRegexp (depth + 1) rest).map fun (groups, n) =>
        ((if opensGroup rest then 1 else 0) + groups, n + 1)
    else if c = '\\' then
      match rest with
      | [] => none
      | _ :: rest => (takeRegexp depth rest).map fun (groups, n) => (groups, n + 2)
    else (takeRegexp depth rest).map fun (groups, n) => (groups, n + 1)

/-! ## Sinks -/

variable {m : Type → Type} [Monad m]

/-- What takes the tokens of a pattern, each with its place. Handlers that are not given ignore
    them. -/
structure Sink (m : Type → Type) [Monad m] where
  text (value : Text) (span : Span) : m Unit := pure ()
  «variable» (name : Text) (span : Span) : m Unit := pure ()
  /-- `greedy` wildcards also match separators -/
  wildcard (greedy : Bool) (span : Span) : m Unit := pure ()
  /-- the body, and the number of capturing groups that it opens -/
  regexp (body : Text) (groups : Nat) (span : Span) : m Unit := pure ()
  altStart (span : Span) : m Unit := pure ()
  altEnd (span : Span) : m Unit := pure ()
  altSeparator (span : Span) : m Unit := pure ()
  pathSeparator (span : Span) : m Unit := pure ()

namespace Sink

/-- Calls the handler for a token. -/
def receive (sink : Sink m) (t : Token) : m Unit :=
  match t.lexeme with
  | .text value => sink.text value t.span
  | .variable name => sink.variable name t.span
  | .wildcard greedy => sink.wildcard greedy t.span
  | .regexp body => sink.regexp body (groupCount body) t.span
  | .altStart => sink.altStart t.span
  | .altEnd => sink.altEnd t.span
  | .altSeparator => sink.altSeparator t.span
  | .pathSeparator => sink.pathSeparator t.span

/-- A sink that does the same for tokens of all kinds. -/
def ofHandler (handle : Token → m Unit) : Sink m where
  text value span := handle ⟨.text value, span⟩
  «variable» name span := handle ⟨.variable name, span⟩
  wildcard greedy span := handle ⟨.wildcard greedy, span⟩
  regexp body _ span := handle ⟨.regexp body, span⟩
  altStart span := handle ⟨.altStart, span⟩
  altEnd span := handle ⟨.altEnd, span⟩
  altSeparator span := handle ⟨.altSeparator, span⟩
  pathSeparator span := handle ⟨.pathSeparator, span⟩

@[simp] theorem receive_ofHandler (handle : Token → m Unit) (t : Token) :
    (ofHandler handle).receive t = handle t := by
  obtain ⟨lexeme, span⟩ := t
  cases lexeme <;> rfl

/-- A sink that keeps a state and stops at the first error of a handler. -/
def ofStep {σ ε : Type} (handle : σ → Token → Except ε σ) : Sink (EStateM ε σ) :=
  ofHandler fun t => do
    match handle (← get) t with
    | .ok s => set s
    | .error e => throw e

/-- A sink that collects the tokens. -/
def recorder : Sink (EStateM Empty (List Token)) :=
  ofHandler fun t => modify (· ++ [t])

/-- Calls the handler for the bare text that waits, if any does, from `start?` up to `stop`. -/
def flush (sink : Sink m) (pattern : Text) (start? : Option Nat) (stop : Nat) : m Unit :=
  match start? with
  | some start => sink.text (pattern.slice start stop) ⟨start, stop⟩
  | none => pure ()

end Sink

/-! ## Reading -/

/-- Reads a pattern from an offset on, where bare text waits that began at `start?`. -/
def tokenizeFrom (sink : Sink m) (pattern : Text) (start? : Option Nat) (i : Nat) : m Nat :=
  match hrest : pattern.drop i with
  | [] => do
    sink.flush pattern start? i
    return i
  | c :: rest =>
    if isSpace c then do
      sink.flush pattern start? i
      tokenizeFrom sink pattern none (i + 1 + (rest.takeWhile isSpace).length)
    else if c = ':' then
      match takeName rest with
      | none => return i
      | some n => do
        sink.flush pattern start? i
        sink.variable (rest.take n) ⟨i, i + 1 + n⟩
        tokenizeFrom sink pattern none (i + 1 + n)
    else if c = '{' then do
      sink.flush pattern start? i
      sink.altStart ⟨i, i + 1⟩
      tokenizeFrom sink pattern none (i + 1)
    else if c = '}' then do
      sink.flush pattern start? i
      sink.altEnd ⟨i, i + 1⟩
      tokenizeFrom sink pattern none (i + 1)
    else if c = ',' then do
      sink.flush pattern start? i
      sink.altSeparator ⟨i, i + 1⟩
      tokenizeFrom sink pattern none (i + 1)
    else if c = '*' then do
      sink.flush pattern start? i
      if rest.head? = some '*' then
        sink.wildcard true ⟨i, i + 2⟩
        tokenizeFrom sink pattern none (i + 2)
      else
        sink.wildcard false ⟨i, i + 1⟩
        tokenizeFrom sink pattern none (i + 1)
    else if c = '/' then do
      sink.flush pattern start? i
      sink.pathSeparator ⟨i, i + 1⟩
      tokenizeFrom sink pattern none (i + 1)
    else if c = '\x22' || c = '\x27' then
      match takeQuoted c rest with
      | none => return i
      | some (value, n) => do
        sink.flush pattern start? i
        sink.text value ⟨i, i + 1 + n⟩
        tokenizeFrom sink pattern none (i + 1 + n)
    else if c = '(' then
      match takeRegexp 0 rest with
      | none => return i
      | some (groups, n) => do
        sink.flush pattern start? i
        sink.regexp (rest.take n) groups ⟨i, i + 1 + n + 1⟩
        tokenizeFrom sink pattern none (i + 1 + n + 1)
    else tokenizeFrom sink pattern (some (start?.getD i)) (i + 1)
termination_by pattern.length - i
decreasing_by
  all_goals
    have hlength := congrArg List.length hrest
    rw [List.length_drop, List.length_cons] at hlength
    omega

/-- Reads a pattern and hands its tokens to a sink: the number of characters read. -/
def tokenize (sink : Sink m) (pattern : Text) : m Nat :=
  tokenizeFrom sink pattern none 0

end PathRouting.Pattern
