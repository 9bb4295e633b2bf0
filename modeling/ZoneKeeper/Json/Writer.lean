/-
**Writing JSON.**

Texts are written without any white space.  In a string, the quote, the backslash and the controls
below U+0020 are escaped, five controls by a letter and the others by their code point in
lower-case hexadecimal; everything else stands for itself.

Main definitions:

* `ZoneKeeper.Json.escape` — one character of a string;
* `ZoneKeeper.Json.writeString`, `ZoneKeeper.Json.writeBool`, `ZoneKeeper.Json.writeNat`,
  `ZoneKeeper.Json.writeArray`, `ZoneKeeper.Json.writeObject` — the written values.
-/

import ZoneKeeper.Text.Decimal

set_option autoImplicit false

namespace ZoneKeeper.Json

open ZoneKeeper.Text

/-- One character of a string. -/
def escape (c : Char) : List Char :=
  if c = '"' then ['\\', '"']
  else if c = '\\' then ['\\', '\\']
  else if c = '\x08' then ['\\', 'b']
  else if c = '\x0c' then ['\\', 'f']
  else if c = '\n' then ['\\', 'n']
  else if c = '\r' then ['\\', 'r']
  else if c = '\t' then ['\\', 't']
  else if c.toNat < 0x20 then
    ['\\', 'u', '0', '0', Nat.digitChar (c.toNat / 16), Nat.digitChar (c.toNat % 16)]
  else [c]

/-- A string. -/
def writeString (s : String) : List Char :=
  '"' :: s.toList.flatMap escape ++ ['"']

/-- A truth value. -/
def writeBool (b : Bool) : List Char :=
  (if b then "true" else "false").toList

/-- A natural number. -/
def writeNat (n : Nat) : List Char :=
  digits n

/-- The written values with commas between them. -/
def commaSeparated : List (List Char) → List Char
  | [] => []
  | [w] => w
  | w :: ws => w ++ ',' :: commaSeparated ws

/-- An array of written values. -/
def writeArray (items : List (List Char)) : List Char :=
  '[' :: commaSeparated items ++ [']']

/-- An object of written values with their keys, in order. -/
def writeObject (members : List (String × List Char)) : List Char :=
  '\x7b' :: commaSeparated (members.map fun m => writeString m.1 ++ ':' :: m.2) ++ ['\x7d']

end ZoneKeeper.Json
