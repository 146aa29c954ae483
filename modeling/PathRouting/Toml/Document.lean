/-
  Tables from statements.

  A name is given a value once. Headers may add to tables that only stand on the
  way to other headers, and dotted keys to tables that only stand on the way to
  headers or values; an inline table is complete.

  * `Literal.value?` is the value that a literal stands for.
  * `fields?` are the fields of a whole file.
-/
import PathRouting.Toml.Basic

namespace PathRouting.Toml

/-! ## Descending into tables -/

/-- Changes the table at the end of a path; tables that are missing on the way
    come about as `origin` says. A path of a dotted key does not lead through
    tables that have a header. -/
def descend (origin : Origin) (change : Origin → Fields → Option (Origin × Fields)) :
    Key → Origin → Fields → Option (Origin × Fields)
  | [], o, fields => change o fields
  | name :: rest, o, fields =>
    match fields.lookup name with
    | none =>
      (descend origin change rest origin []).map fun (o', inner) =>
        (o, fields.set name (.table o' inner))
    | some (.table o' inner) =>
      if o' = .inline ∨ (origin = .dotted ∧ o' = .header) then none
      else
        (descend origin change rest o' inner).map fun (o', inner) =>
          (o, fields.set name (.table o' inner))
    | some (.tables (last :: earlier)) =>
      (descend origin change rest .header last).map fun (_, last) =>
        (o, fields.set name (.tables (last :: earlier)))
    | some _ => none

/-- The names on the way, and the last name of a key. -/
def splitLast : Key → Option (Key × Text)
  | [] => none
  | [name] => some ([], name)
  | name :: rest => (splitLast rest).map fun (path, last) => (name :: path, last)

/-- Adds a value under a new name. -/
def addNew (name : Text) (value : Value) (fields : Fields) : Option Fields :=
  if (fields.lookup name).isSome then none else some (fields ++ [(name, value)])

/-- Adds a value under a dotted key. The table that it is added to may not have
    a header of its own, nor be an inline table, and counts as one of dotted keys
    from then on. -/
def addEntry (key : Key) (value : Value) (fields : Fields) : Option Fields :=
  (splitLast key).bind fun (path, name) =>
    let add (o : Origin) (inner : Fields) : Option (Origin × Fields) :=
      if path.isEmpty then (addNew name value inner).map fun inner => (o, inner)
      else if o = .dotted ∨ o = .implied then
        (addNew name value inner).map fun inner => (.dotted, inner)
      else none
    (descend .dotted add path .header fields).map (·.2)

/-! ## Literals -/

mutual

/-- The value that a literal stands for, unless a name has two values. -/
def Literal.value? : Literal → Option Value
  | .string value => some (.string value)
  | .integer value => some (.integer value)
  | .float => some .float
  | .boolean value => some (.boolean value)
  | .datetime => some .datetime
  | .array items => (itemValues? items).map .array
  | .inline entries => (entryValues? [] entries).map (.table .inline)

/-- The values that the items of an array stand for. -/
def itemValues? : List Literal → Option (List Value)
  | [] => some []
  | item :: rest =>
    match item.value?, itemValues? rest with
    | some value, some values => some (value :: values)
    | _, _ => none

/-- The fields with the entries of an inline table added. -/
def entryValues? (fields : Fields) : List (Key × Literal) → Option Fields
  | [] => some fields
  | (key, literal) :: rest =>
    match literal.value? with
    | none => none
    | some value =>
      match addEntry key value fields with
      | none => none
      | some fields => entryValues? fields rest

end

/-! ## Files -/

/-- Adds the table of a header. -/
def addTable (key : Key) (fields : Fields) : Option Fields :=
  (splitLast key).bind fun (path, name) =>
    let add (o : Origin) (inner : Fields) : Option (Origin × Fields) :=
      match inner.lookup name with
      | none => some (o, inner ++ [(name, .table .header [])])
      | some (.table .implied content) => some (o, inner.set name (.table .header content))
      | some _ => none
    (descend .implied add path .header fields).map (·.2)

/-- Adds an element to a list of tables. -/
def addElement (key : Key) (fields : Fields) : Option Fields :=
  (splitLast key).bind fun (path, name) =>
    let add (o : Origin) (inner : Fields) : Option (Origin × Fields) :=
      match inner.lookup name with
      | none => some (o, inner ++ [(name, .tables [[]])])
      | some (.tables elements) => some (o, inner.set name (.tables ([] :: elements)))
      | some _ => none
    (descend .implied add path .header fields).map (·.2)

/-- The fields after further statements; `current` is the key of the last
    header. -/
def addStatements (current : Key) (fields : Fields) : List Statement → Option Fields
  | [] => some fields
  | .header key :: rest => (addTable key fields).bind (addStatements key · rest)
  | .element key :: rest => (addElement key fields).bind (addStatements key · rest)
  | .entry key literal :: rest =>
    literal.value?.bind fun value =>
      let add (o : Origin) (inner : Fields) : Option (Origin × Fields) :=
        (addEntry key value inner).map fun inner => (o, inner)
      (descend .implied add current .header fields).bind fun (_, fields) =>
        addStatements current fields rest

/-- The fields of a file, unless a name is given two values. -/
def fields? (statements : List Statement) : Option Fields :=
  addStatements [] [] statements

end PathRouting.Toml
