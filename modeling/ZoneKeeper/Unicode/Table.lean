/-
**Tables of characters.**

A table is written as lines of words.  A word stands for one code point or for a range of them, the
first and the last one with a hyphen between; where the table gives every range a value, an equals
sign and the value follow.  All numbers are hexadecimal.

Main definitions:

* `ZoneKeeper.Unicode.Range` — a range of code points;
* `ZoneKeeper.Unicode.readRanges`, `ZoneKeeper.Unicode.readValues` — reading tables;
* `ZoneKeeper.Unicode.covers` — a character lies in one of the ranges;
* `ZoneKeeper.Unicode.valueAt` — the value of the range that a character lies in.
-/

import ZoneKeeper.Text.Fields
import ZoneKeeper.Text.Hex

set_option autoImplicit false

namespace ZoneKeeper.Unicode

open ZoneKeeper.Text

/-- A character of seven bits. -/
def isAscii (c : Char) : Bool :=
  c.toNat < 0x80

/-- A range of code points, both ends included. -/
structure Range where
  first : Nat
  last : Nat
  deriving DecidableEq, Repr

/-- The character lies in the range. -/
def Range.contains (r : Range) (c : Char) : Bool :=
  r.first ≤ c.toNat && c.toNat ≤ r.last

/-- The number that hexadecimal digits denote. -/
def hexNumber (cs : List Char) : Nat :=
  cs.foldl (fun n c => n * 16 + (hexValue? c).getD 0) 0

/-- The words of a table. -/
def tableWords (lines : List String) : List (List Char) :=
  lines.flatMap fun line => fields ' ' line.toList

/-- The range that a word stands for. -/
def readRange (word : List Char) : Range :=
  match fields '-' word with
  | [first, last] => ⟨hexNumber first, hexNumber last⟩
  | _ => ⟨hexNumber word, hexNumber word⟩

/-- The ranges of a table. -/
def readRanges (lines : List String) : List Range :=
  (tableWords lines).map readRange

/-- The character lies in one of the ranges. -/
def covers (ranges : List Range) (c : Char) : Bool :=
  ranges.any (·.contains c)

/-- The ranges of a table with their values. -/
def readValues (lines : List String) : List (Range × Nat) :=
  (tableWords lines).map fun word =>
    match fields '=' word with
    | [range, value] => (readRange range, hexNumber value)
    | _ => (readRange word, 0)

/-- The value of the range that the character lies in, and nothing outside all of them. -/
def valueAt (values : List (Range × Nat)) (c : Char) : Option Nat :=
  (values.find? (·.1.contains c)).map (·.2)

end ZoneKeeper.Unicode
