/-
  Numbers, truth values and times in configuration files.

  * `Literal.ofWord?` is the literal that a word without quotes stands for.
  * Digits may be grouped by single underscores.
-/
import PathRouting.Toml.Basic

namespace PathRouting.Toml

/-! ## Digits -/

/-- The value of a digit, counting letters on from ten. -/
def digitValue (c : Char) : Option Nat :=
  let c := Text.lowerChar c
  if Text.isDigit c then some (c.toNat - '0'.toNat)
  else if 'a' ≤ c ∧ c ≤ 'z' then some (c.toNat - 'a'.toNat + 10)
  else none

/-- The value of digits behind those read so far; an underscore has to stand
    between two digits. -/
def digitsFrom (base value : Nat) (digitBefore : Bool) : Text → Option Nat
  | [] => if digitBefore then some value else none
  | '_' :: rest => if digitBefore then digitsFrom base value false rest else none
  | c :: rest =>
    match digitValue c with
    | some d => if d < base then digitsFrom base (base * value + d) true rest else none
    | none => none

/-- The value of a run of digits. -/
def digits? (base : Nat) (t : Text) : Option Nat :=
  digitsFrom base 0 false t

/-- The value of a decimal number without sign; only zero begins with a zero. -/
def natural? : Text → Option Nat
  | '0' :: rest => if rest.isEmpty then some 0 else none
  | t => digits? 10 t

/-! ## Numbers -/

/-- The sign of a number, and the number without it. -/
def signed : Text → Bool × Text
  | '-' :: rest => (true, rest)
  | '+' :: rest => (false, rest)
  | t => (false, t)

/-- Whether a whole number fits into 128 bits, with sign or without. -/
def fits (n : Int) : Bool :=
  -(Int.pow 2 127) ≤ n && n < Int.pow 2 128

/-- The value of a whole number. -/
def integer? (t : Text) : Option Int :=
  let value : Option Int := match t with
    | '0' :: 'x' :: rest => (digits? 16 rest).map Int.ofNat
    | '0' :: 'o' :: rest => (digits? 8 rest).map Int.ofNat
    | '0' :: 'b' :: rest => (digits? 2 rest).map Int.ofNat
    | _ =>
      let (negative, t) := signed t
      (natural? t).map fun n => if negative then -(n : Int) else n
  value.filter fits

/-- The part before a character, and the part behind it if there is one. -/
def splitAtChar (found : Char → Bool) (t : Text) : Text × Option Text :=
  match t.dropWhile fun c => !found c with
  | [] => (t, none)
  | _ :: rest => (t.takeWhile fun c => !found c, some rest)

/-- Whether `m * 10 ^ e` is finite as a number of double precision. From
    `2 ^ 1024 - 2 ^ 970` on a number is rounded to infinity. -/
def isFinite (m : Nat) (e : Int) : Bool :=
  let digits := (Text.decimal m).length
  let places := digits + e
  m == 0 || places < 309 ||
    (places == 309 && m * Nat.pow 10 309 < (Nat.pow 2 1024 - Nat.pow 2 970) * Nat.pow 10 digits)

/-- Digits behind a whole number and the exponent behind them, either of which
    may be missing, as a whole number times a power of ten. -/
def decimal? (whole : Text) (fraction exponent : Option Text) : Option (Nat × Int) := do
  let w ← natural? whole
  let (f, places) ← match fraction with
    | none => some (0, 0)
    | some t => (digits? 10 t).map fun f => (f, t.countP Text.isDigit)
  let e ← match exponent with
    | none => some 0
    | some t =>
      let (negative, t) := signed t
      (digits? 10 t).map fun e => if negative then -(e : Int) else e
  return (w * Nat.pow 10 places + f, e - places)

/-- Whether a word is a number with a point, an exponent or both, and finite, or
    one of the words `inf` and `nan`. -/
def isFloat (t : Text) : Bool :=
  let (_, t) := signed t
  let (mantissa, exponent) := splitAtChar (fun c => c == 'e' || c == 'E') t
  let (whole, fraction) := splitAtChar (· == '.') mantissa
  t == "inf".toList || t == "nan".toList ||
    ((fraction.isSome || exponent.isSome) &&
      (decimal? whole fraction exponent).any fun (m, e) => isFinite m e)

/-! ## Times -/

/-- A number of exactly `n` digits from a least to a greatest value, and the
    rest. -/
def field? (n low high : Nat) (t : Text) : Option (Nat × Text) :=
  let digits := t.take n
  let value := Text.readDecimal digits
  if digits.length = n ∧ digits.all Text.isDigit ∧ low ≤ value ∧ value ≤ high then
    some (value, t.drop n)
  else none

/-- The rest behind a given character. -/
def behind? (c : Char) : Text → Option Text
  | d :: rest => if d = c then some rest else none
  | [] => none

/-- The number of days of a month. -/
def daysOf (year month : Nat) : Nat :=
  if month = 2 then
    if (year % 4 = 0 ∧ year % 100 ≠ 0) ∨ year % 400 = 0 then 29 else 28
  else if month = 4 ∨ month = 6 ∨ month = 9 ∨ month = 11 then 30
  else 31

/-- The rest behind a date. -/
def date? (t : Text) : Option Text := do
  let (year, t) ← field? 4 0 9999 t
  let (month, t) ← field? 2 1 12 (← behind? '-' t)
  let (_, t) ← field? 2 1 (daysOf year month) (← behind? '-' t)
  return t

/-- The rest behind a time of day; seconds and their fraction may be left out. -/
def time? (t : Text) : Option Text := do
  let (_, t) ← field? 2 0 23 t
  let (_, t) ← field? 2 0 59 (← behind? ':' t)
  match t with
  | ':' :: t =>
    let (_, t) ← field? 2 0 60 t
    match t with
    | '.' :: t =>
      let rest := t.dropWhile Text.isDigit
      if rest.length < t.length then return rest else none
    | _ => return t
  | _ => return t

/-- Whether a text is an offset from universal time. -/
def isOffset (t : Text) : Bool :=
  let ofSign (t : Text) : Option Text := do
    let (_, t) ← field? 2 0 23 t
    let (_, t) ← field? 2 0 59 (← behind? ':' t)
    return t
  match t with
  | ['z'] | ['Z'] => true
  | '+' :: rest | '-' :: rest => ofSign rest == some []
  | _ => false

/-- Whether a word is a date, a time of day, or both. -/
def isDatetime (t : Text) : Bool :=
  match date? t with
  | none => time? t == some []
  | some [] => true
  | some (c :: rest) =>
    (c == 'T' || c == 't' || c == ' ') &&
      match time? rest with
      | some [] => true
      | some offset => isOffset offset
      | none => false

/-! ## Words -/

/-- The literal that a word without quotes stands for. -/
def Literal.ofWord? (t : Text) : Option Literal :=
  if t = "true".toList then some (.boolean true)
  else if t = "false".toList then some (.boolean false)
  else match integer? t with
    | some n => some (.integer n)
    | none =>
      if isFloat t then some .float
      else if isDatetime t then some .datetime
      else none

end PathRouting.Toml
