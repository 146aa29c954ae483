/-
  Finding a character property by the name that is written for it.

  * `normalise` is loose matching: case, spaces, hyphens, underscores and a
    leading `is` do not matter.
  * `PropertyQuery.table` gives the code points that a query asks for.
-/
import PathRouting.Text.Basic
import PathRouting.Unicode.Age
import PathRouting.Unicode.BinaryProperty
import PathRouting.Unicode.GeneralCategory
import PathRouting.Unicode.Script
import PathRouting.Unicode.Segmentation

namespace PathRouting.Unicode

/-- A property as it is asked for: by a name, or by a name and a value. -/
inductive PropertyQuery where
  | named (name : Text)
  | valued (name value : Text)
deriving DecidableEq, Repr

/-- A name without the differences that loose matching ignores. -/
def normalise (name : Text) : String :=
  let is := (name.take 2).map Text.lowerChar = "is".toList
  let rest := (if is then name.drop 2 else name).filter fun c =>
    c ≠ ' ' ∧ c ≠ '_' ∧ c ≠ '-' ∧ c.toNat < 0x80
  let short := String.ofList (Text.lower rest)
  if is ∧ short = "c" then "isc" else short

/-- The general category with a normalised name, or one of the three sets that
    are asked for like one. -/
def category? (name : String) : Option RangeTable :=
  if name = "any" then some [(0, 0x10FFFF)]
  else if name = "ascii" then some [(0, 0x7F)]
  else if name = "assigned" then
    some ((generalCategories.filter (!·.names.contains "cn")).flatMap (·.table))
  else generalCategory? name

/-- Names of properties whose values have to be given. -/
def valuedProperties : List String :=
  ["generalcategory", "script", "scx", "scriptextensions", "age", "gcb", "graphemeclusterbreak",
    "wb", "wordbreak", "sb", "sentencebreak"]

/-- One of the values of a property. -/
def valueOf? (values : List NamedTable) (value : String) : Option RangeTable :=
  if value = "xx" ∨ value = "other" then none
  else (values.find? (·.names.contains value)).map (·.table)

/-- The code points that a query asks for, if there is such a property. -/
def PropertyQuery.table : PropertyQuery → Option RangeTable
  | named name =>
    let n := normalise name
    if valuedProperties.contains n then none
    else
      ((if n = "cf" ∨ n = "sc" ∨ n = "lc" then none else binaryProperty? n).or (category? n)).or
        (script? n)
  | valued name value =>
    let n := normalise name
    let v := normalise value
    if n = "gc" ∨ n = "generalcategory" then category? v
    else if n = "sc" ∨ n = "script" then script? v
    else if n = "scx" ∨ n = "scriptextensions" then scriptExtension? v
    else if n = "age" then age? v
    else if n = "gcb" ∨ n = "graphemeclusterbreak" then valueOf? graphemeClusterBreaks v
    else if n = "wb" ∨ n = "wordbreak" then valueOf? wordBreaks v
    else if n = "sb" ∨ n = "sentencebreak" then valueOf? sentenceBreaks v
    else none

end PathRouting.Unicode
