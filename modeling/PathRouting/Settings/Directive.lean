/-
  Log filters.

  A filter is a level, or a target, a span and its fields, in this order and
  each of them optional, with a level behind `=`:
  `target[span{field=value}]=level`.

  * `Directive.isWellFormed` decides whether a text is a filter.
-/
import PathRouting.Regex.Reader
import PathRouting.Text.Blank
import PathRouting.Text.Letter

namespace PathRouting

namespace Directive

/-! ## Levels -/

/-- The names of the levels. -/
def levelNames : List Text :=
  ["error".toList, "warn".toList, "info".toList, "debug".toList, "trace".toList, "off".toList]

/-- Whether a text is a number from zero to five. -/
def isLevelNumber (t : Text) : Bool :=
  let digits := if t.head? = some '+' then t.tail else t
  !digits.isEmpty && digits.all Text.isDigit && Text.readDecimal digits ≤ 5

/-- Whether a text is a level: its name in any letter case, or its number. -/
def isLevel (t : Text) : Bool :=
  t.isEmpty || isLevelNumber t || levelNames.contains (Text.lower t)

/-! ## Fields -/

/-- Whether a text is a number with a decimal point or an exponent, without
    sign. -/
def isDecimal (t : Text) : Bool :=
  let isExponent (c : Char) : Bool := c == 'e' || c == 'E'
  let mantissa := t.takeWhile fun c => !isExponent c
  let digits := mantissa.filter Text.isDigit
  let exponent : Bool := match t.dropWhile fun c => !isExponent c with
    | [] => true
    | _ :: '+' :: rest | _ :: '-' :: rest | _ :: rest => !rest.isEmpty && rest.all Text.isDigit
  !digits.isEmpty && (mantissa.filter fun c => !Text.isDigit c).length ≤ 1 &&
    (mantissa.all fun c => Text.isDigit c || c == '.') && exponent

/-- Whether a text is a number with a plus sign. -/
def isPositive : Text → Bool
  | '+' :: t =>
    isDecimal t || ["inf".toList, "infinity".toList, "nan".toList].contains (Text.lower t)
  | _ => false

/-- Whether an expression asks for the edges of words in all scripts. -/
def asksForWords : Regex.Expr → Bool
  | .look (.word _ unicode) => unicode
  | .empty | .literal _ | .chars _ | .look _ => false
  | .group _ _ e | .repeated _ _ _ e => asksForWords e
  | .seq a b | .alt a b => asksForWords a || asksForWords b

/-- Whether a text is a value to compare a field with: a number, or a regular
    expression that does not ask for the edges of words. -/
def isFieldValue (t : Text) : Bool :=
  isPositive t ||
    match Regex.read {} t with
    | .ok e => !asksForWords e
    | .error _ => false

/-- Whether a text is a field, with or without a value. -/
def isField (t : Text) : Bool :=
  !t.isEmpty &&
    match (t.dropWhile (· != '=')) with
    | [] => true
    | _ :: rest => isFieldValue (rest.takeWhile (· != '='))

/-! ## Filters -/

/-- Whether a character may stand at the beginning of a target. -/
def startsTarget (c : Char) : Bool :=
  c == '-' || c == ':' || c == '_' || Text.isAlphanumeric c

/-- Where a reader of a filter stands. -/
inductive State where
  | start
  /-- in a target, or in a level that stands alone -/
  | target
  | span
  /-- in a field; `read` is what it holds so far, in reverse order -/
  | field (read : Text)
  | fieldsEnd
  | spanEnd
  /-- in a level behind `=`; `read` is what it holds so far, in reverse order -/
  | level (read : Text)
deriving Repr

/-- The state behind a character, unless it may not stand there. -/
def step : State → Char → Option State
  | .start, c => if c = '[' then some .span else if startsTarget c then some .target else none
  | .target, c =>
    some (if c = '=' then .level [] else if c = '[' then .span else .target)
  | .spanEnd, c => if c = '=' then some (.level []) else none
  | .span, c =>
    some (if c = ']' then .spanEnd else if c = '\x7b' then .field [] else .span)
  | .field read, c =>
    if c = '\x7d' then if isField read.reverse then some .fieldsEnd else none
    else if c = ',' then if isField read.reverse then some (.field []) else none
    else some (.field (c :: read))
  | .fieldsEnd, c => if c = ']' then some .spanEnd else none
  | .level read, c => some (.level (c :: read))

/-- Whether a filter may end. -/
def State.final : State → Bool
  | .target | .spanEnd => true
  | .level read => isLevel read.reverse
  | .start | .span | .field _ | .fieldsEnd => false

/-- Whether a text without commas outside of fields is a filter. -/
def isWellFormed (t : Text) : Bool :=
  ((Text.trim t).foldl (fun s c => s.bind (step · c)) (some .start)).any State.final

end Directive

end PathRouting
