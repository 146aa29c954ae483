/-
  The characters that the version of the standard behind the one of the other
  tables added. Properties are asked for by the older version; names of groups
  and quoted text go by the newer one.
-/
import PathRouting.Unicode.RangeTable

namespace PathRouting.Unicode

/-- The added characters. -/
def addedCharacters : RangeTable := decodeRanges [
    "88f 3cd 80 df3-e 3-b 5d6 ad5 7c38-1 3 2 1d 53d2-f 1be-1 37-6 b72-19 56c-2 9-8 22-1 c65-7",
    "249-2b 5-9 50b7-18 3-18 11f-4 1802-7 50a-15 62-72 3f08-2 1be-16 10-10 17d0-1e 2-15 9-1",
    "fd9 9f-3 156-8 17c-3 33 4 3a 5 1d 5 10b bb40-5 1763-b 5503-10c9"]

/-- The added alphabetic characters. -/
def addedAlphabetic : RangeTable := decodeRanges [
    "88f 3cd 80 9af2-1 3 2 1d 614f-19 56c-2 33-1 c65-7 249-2b 50c5-18 3-18 11f-4 1802-7",
    "50a-15 62-72 58ce-1e 2-15 9-1 d03b-5 1763-b 5503-10c9"]

/-- The added numbers. -/
def addedNumbers : RangeTable := decodeRanges [
    "11de0-9 520b-2"]

/-- The added marks that extend the character before them. -/
def addedMarks : RangeTable := decodeRanges [
    "1acf-e 3-b f40f-1 c65 2-2 2 cb7d 3 8-1 6"]

end PathRouting.Unicode
