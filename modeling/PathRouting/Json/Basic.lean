/-
  Data values: the payloads of a route tree and the contexts of conditions.

  * `Json` is the type of data values; the fields of an object stand in the
    order in which they are printed.
  * `==` compares two values field by field.
  * `compact` prints a value without blanks, `outline` with the kind of each
    part.
-/
import PathRouting.Json.Number
import PathRouting.Text.Quoted

namespace PathRouting

/-- A data value. -/
inductive Json where
  | null
  | bool (value : Bool)
  | number (value : Json.Number)
  | string (value : Text)
  | array (items : List Json)
  | object (fields : List (Text × Json))
deriving Repr

namespace Json

instance : Inhabited Json := ⟨null⟩

/-! ## Equality -/

mutual

/-- Whether two values are equal. -/
def same : Json → Json → Bool
  | .null, .null => true
  | .bool a, .bool b => a == b
  | .number a, .number b => a.same b
  | .string a, .string b => a == b
  | .array as, .array bs => sameItems as bs
  | .object as, .object bs => sameFields as bs
  | _, _ => false

/-- Whether two lists of values are equal. -/
def sameItems : List Json → List Json → Bool
  | [], [] => true
  | a :: as, b :: bs => same a b && sameItems as bs
  | _, _ => false

/-- Whether two lists of fields are equal. -/
def sameFields : List (Text × Json) → List (Text × Json) → Bool
  | [], [] => true
  | (m, a) :: as, (n, b) :: bs => m == n && same a b && sameFields as bs
  | _, _ => false

end

instance : BEq Json := ⟨same⟩

/-! ## Compact form -/

/-- A character as written inside a string. -/
def escaped (c : Char) : Text :=
  if c = '\x22' then "\\\x22".toList
  else if c = '\\' then "\\\\".toList
  else if c = '\x08' then "\\b".toList
  else if c = '\x0c' then "\\f".toList
  else if c = '\n' then "\\n".toList
  else if c = '\r' then "\\r".toList
  else if c = '\t' then "\\t".toList
  else if c.toNat < 0x10 then "\\u000".toList ++ Nat.toDigits 16 c.toNat
  else if c.toNat < 0x20 then "\\u00".toList ++ Nat.toDigits 16 c.toNat
  else [c]

/-- A text as a string. -/
def quoted (t : Text) : Text :=
  '\x22' :: t.flatMap escaped ++ ['\x22']

mutual

/-- A value without blanks. -/
def compact : Json → Text
  | .null => "null".toList
  | .bool value => (if value then "true" else "false").toList
  | .number value => value.text
  | .string value => quoted value
  | .array items => '[' :: Text.join [','] (compactItems items) ++ [']']
  | .object fields => '\x7b' :: Text.join [','] (compactFields fields) ++ ['\x7d']

/-- Several values without blanks. -/
def compactItems : List Json → List Text
  | [] => []
  | v :: vs => compact v :: compactItems vs

/-- Several fields without blanks. -/
def compactFields : List (Text × Json) → List Text
  | [] => []
  | (name, v) :: fs => (quoted name ++ ':' :: compact v) :: compactFields fs

end

/-! ## Outline -/

mutual

/-- A value with the kind of each part. -/
def outline : Json → Text
  | .null => "Null".toList
  | .bool value => (if value then "Bool(true)" else "Bool(false)").toList
  | .number value => "Number(".toList ++ value.text ++ [')']
  | .string value => "String(".toList ++ Text.quoted value ++ [')']
  | .array items => "Array [".toList ++ Text.join ", ".toList (outlineItems items) ++ [']']
  | .object fields =>
    "Object \x7b".toList ++ Text.join ", ".toList (outlineFields fields) ++ ['\x7d']

/-- Several values with the kind of each part. -/
def outlineItems : List Json → List Text
  | [] => []
  | v :: vs => outline v :: outlineItems vs

/-- Several fields with the kind of each part. -/
def outlineFields : List (Text × Json) → List Text
  | [] => []
  | (name, v) :: fs => (Text.quoted name ++ ": ".toList ++ outline v) :: outlineFields fs

end

end Json

end PathRouting
