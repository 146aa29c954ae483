/-
  The data of a configuration file.

  * `Literal` is a value as it is written: an inline table is a list of keys
    with values.
  * `Statement` is a line of a file: the header of a table or of an element of a
    list of tables, or a key with a value.
  * `Value` is a value as it is meant: a table knows how it came about, since
    that decides who may add to it.
-/
import PathRouting.Text.Basic

namespace PathRouting.Toml

/-- A key: the names on the way to a value. -/
abbrev Key := List Text

/-- A value as it is written. -/
inductive Literal where
  | string (value : Text)
  | integer (value : Int)
  | float
  | boolean (value : Bool)
  | datetime
  | array (items : List Literal)
  | inline (entries : List (Key × Literal))
deriving Repr

instance : Inhabited Literal := ⟨.float⟩

/-- A line of a file. -/
inductive Statement where
  /-- the header of a table -/
  | header (key : Key)
  /-- the header of a further element of a list of tables -/
  | element (key : Key)
  | entry (key : Key) (value : Literal)
deriving Repr

/-- How a table came about. -/
inductive Origin where
  /-- on the way to the table of a header -/
  | implied
  /-- on the way to a value -/
  | dotted
  | header
  | inline
deriving DecidableEq, Repr

/-- A value as it is meant. Numbers and times are told apart only by kind. -/
inductive Value where
  | string (value : Text)
  | integer (value : Int)
  | float
  | boolean (value : Bool)
  | datetime
  | array (items : List Value)
  | table (origin : Origin) (fields : List (Text × Value))
  /-- a list of tables, the last one first -/
  | tables (elements : List (List (Text × Value)))
deriving Repr

instance : Inhabited Value := ⟨.float⟩

/-- The fields of a table. -/
abbrev Fields := List (Text × Value)

/-- The fields with one replaced, or with one more at the end. -/
def Fields.set (name : Text) (value : Value) : Fields → Fields
  | [] => [(name, value)]
  | (n, v) :: rest => if n = name then (n, value) :: rest else (n, v) :: Fields.set name value rest

end PathRouting.Toml
