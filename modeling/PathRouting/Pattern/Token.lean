/-
  The tokens of a pattern.

  * `Lexeme` is what a token says, `Token` adds where it stands.
  * `groupCount` counts the capturing groups that a raw regular expression
    opens, by its parentheses alone.
  * `Token.render` is the printed form of a token.
-/
import PathRouting.Pattern.Span
import PathRouting.Text.Quoted

namespace PathRouting.Pattern

/-- What a token says. -/
inductive Lexeme where
  /-- literal text, with quotes and escapes removed -/
  | text (value : Text)
  /-- `:name` -/
  | variable (name : Text)
  /-- `*`, or `**` if `greedy`, which also matches separators -/
  | wildcard (greedy : Bool)
  /-- `(body)`, a raw regular expression -/
  | regexp (body : Text)
  /-- `{` -/
  | altStart
  /-- `}` -/
  | altEnd
  /-- `,` -/
  | altSeparator
  /-- `/` -/
  | pathSeparator
deriving DecidableEq, Repr

/-- A lexeme and the stretch of the pattern that it was read from. -/
structure Token where
  lexeme : Lexeme
  span : Span
deriving DecidableEq, Repr

/-- Whether a parenthesis followed by `rest` opens a capturing group: a plain
    one, or one with a name, `(?<name>` or `(?P<name>`. -/
def opensGroup : Text → Bool
  | '?' :: 'P' :: '<' :: _ => true
  | '?' :: '<' :: '=' :: _ => false
  | '?' :: '<' :: '!' :: _ => false
  | '?' :: '<' :: _ => true
  | '?' :: _ => false
  | _ => true

/-- The number of capturing groups in the body of a raw regular expression; a
    backslash makes the next character literal. -/
def groupCount : Text → Nat
  | [] => 0
  | ['\\'] => 0
  | '\\' :: _ :: rest => groupCount rest
  | c :: rest => (if c = '(' && opensGroup rest then 1 else 0) + groupCount rest

/-- The printed form of a lexeme. -/
def Lexeme.render : Lexeme → Text
  | .text value => "text ".toList ++ Text.quoted value
  | .variable name => "variable ".toList ++ name
  | .wildcard true => "wildcard greedy".toList
  | .wildcard false => "wildcard".toList
  | .regexp body =>
    "regexp ".toList ++ Text.quoted body ++ " groups=".toList ++ Text.decimal (groupCount body)
  | .altStart => "alt-start".toList
  | .altEnd => "alt-end".toList
  | .altSeparator => "alt-separator".toList
  | .pathSeparator => "path-separator".toList

/-- The printed form of a token: its lexeme and its span. -/
def Token.render (t : Token) : Text :=
  t.lexeme.render ++ ' ' :: t.span.render

end PathRouting.Pattern
