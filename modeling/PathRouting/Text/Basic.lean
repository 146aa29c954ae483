/-
  Text as a list of characters.

  Patterns, candidates and values are read character by character, so text is
  a list of characters throughout; `String` stands only where something is
  printed.

  * `utf8Length` is the length of a text in its byte form, `dropUtf8` leaves out
    as many bytes at its start.
  * `decimal` writes a number, `readDecimal` reads one.
  * `join` puts a separator between texts, `splitAt` takes a text apart at one.
-/

namespace PathRouting

/-- A text: its characters in order. -/
abbrev Text := List Char

namespace Text

/-- The number of bytes of a text in UTF-8. -/
def utf8Length : Text → Nat
  | [] => 0
  | c :: cs => c.utf8Size + utf8Length cs

/-- The length of a concatenation. -/
theorem utf8Length_append (s t : Text) : utf8Length (s ++ t) = utf8Length s + utf8Length t := by
  induction s with
  | nil => simp [utf8Length]
  | cons c s ih => simp [utf8Length, ih, Nat.add_assoc]

/-- The text behind its first `n` bytes; `n` ends a character. -/
def dropUtf8 (n : Nat) : Text → Text
  | [] => []
  | c :: cs => if n = 0 then c :: cs else dropUtf8 (n - c.utf8Size) cs

/-- Leaving out a first part by its length in bytes. -/
theorem dropUtf8_append (s t : Text) : dropUtf8 (utf8Length s) (s ++ t) = t := by
  induction s with
  | nil => cases t <;> simp [utf8Length, dropUtf8]
  | cons c s ih =>
    have h := c.utf8Size_pos
    simp only [utf8Length, List.cons_append, dropUtf8]
    rw [if_neg (by omega), Nat.add_sub_cancel_left, ih]

/-- A number in decimal digits. -/
def decimal (n : Nat) : Text :=
  Nat.toDigits 10 n

/-- The value of a run of decimal digits; characters are not checked. -/
def readDecimal (digits : Text) : Nat :=
  digits.foldl (fun n c => 10 * n + (c.toNat - '0'.toNat)) 0

/-- The texts in order with a separator between any two. -/
def join (separator : Text) : List Text → Text
  | [] => []
  | [t] => t
  | t :: ts => t ++ separator ++ join separator ts

/-- The parts of a text between the occurrences of a character. -/
def splitAt (separator : Char) : Text → List Text
  | [] => [[]]
  | c :: cs =>
    if c = separator then [] :: splitAt separator cs
    else match splitAt separator cs with
      | [] => [[c]]
      | part :: parts => (c :: part) :: parts

/-- The part from `start` up to `stop`, counted in characters. -/
def slice (t : Text) (start stop : Nat) : Text :=
  (t.take stop).drop start

/-- A Latin capital as its small letter, any other character as itself. -/
def lowerChar (c : Char) : Char :=
  if 'A' ≤ c ∧ c ≤ 'Z' then Char.ofNat (c.toNat + 32) else c

/-- The text with its Latin capitals as small letters. -/
def lower (t : Text) : Text :=
  t.map lowerChar

/-- Whether `c` is one of the characters A to Z and a to z. -/
def isLatinLetter (c : Char) : Bool :=
  ('a' ≤ c && c ≤ 'z') || ('A' ≤ c && c ≤ 'Z')

/-- Whether `c` is one of the characters 0 to 9. -/
def isDigit (c : Char) : Bool :=
  '0' ≤ c && c ≤ '9'

/-- The value of a hexadecimal digit in either case. -/
def hexValue? (c : Char) : Option Nat :=
  if isDigit c then some (c.toNat - '0'.toNat)
  else if 'a' ≤ c ∧ c ≤ 'f' then some (c.toNat - 'a'.toNat + 10)
  else if 'A' ≤ c ∧ c ≤ 'F' then some (c.toNat - 'A'.toNat + 10)
  else none

end Text

end PathRouting
