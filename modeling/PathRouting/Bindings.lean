/-
  Values bound to names, in the order in which the names were first bound.

  * `get?` is the value of a name, `insert` binds a name and replaces its value,
    `insertNew` binds only names that have no value.
  * `extended` adds the bindings of another map on top.
  * `==` asks for the same values under the same names, in any order.
  * `toJson` is the object of the bindings, `outline` the printed form.
-/
import PathRouting.Json.Basic

namespace PathRouting

/-- Values bound to names. -/
structure Bindings where
  entries : List (Text × Text)
deriving Repr

namespace Bindings

/-- No bindings. -/
def empty : Bindings := ⟨[]⟩

instance : Inhabited Bindings := ⟨empty⟩

/-- The value of a name. -/
def get? (b : Bindings) (name : Text) : Option Text :=
  b.entries.lookup name

/-- Whether a name has a value. -/
def contains (b : Bindings) (name : Text) : Bool :=
  (b.get? name).isSome

/-- The number of names. -/
def size (b : Bindings) : Nat :=
  b.entries.length

/-- The names in order. -/
def names (b : Bindings) : List Text :=
  b.entries.map (·.1)

/-- The entries with the value of a name replaced, or with the name at the end. -/
def put (name value : Text) : List (Text × Text) → List (Text × Text)
  | [] => [(name, value)]
  | (n, v) :: rest => if n = name then (n, value) :: rest else (n, v) :: put name value rest

/-- Binds a name. A name that has a value keeps its place. -/
def insert (b : Bindings) (name value : Text) : Bindings :=
  ⟨put name value b.entries⟩

/-- Binds a name unless it has a value. -/
def insertNew (b : Bindings) (name value : Text) : Bindings :=
  if b.contains name then b else ⟨b.entries ++ [(name, value)]⟩

/-- Binds the names of a list from left to right. -/
def ofList (pairs : List (Text × Text)) : Bindings :=
  pairs.foldl (fun b p => b.insert p.1 p.2) empty

/-- The bindings with those of another map on top. -/
def extended (a b : Bindings) : Bindings :=
  b.entries.foldl (fun m p => m.insert p.1 p.2) a

instance : BEq Bindings where
  beq a b := a.size == b.size && a.entries.all fun p => b.get? p.1 == some p.2

/-! ## Printing -/

/-- The object with a string for each name. -/
def toJson (b : Bindings) : Json :=
  .object (b.entries.map fun p => (p.1, .string p.2))

/-- The bindings with names and values in quotes. -/
def outline (b : Bindings) : Text :=
  '\x7b' :: Text.join ", ".toList
    (b.entries.map fun p => Text.quoted p.1 ++ ": ".toList ++ Text.quoted p.2) ++ ['\x7d']

end Bindings

end PathRouting
