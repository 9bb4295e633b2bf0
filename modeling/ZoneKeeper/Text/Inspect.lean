/-
**Inspected values.**

The inspected text of a value is meant for a person who looks into a program: a text stands in
double quotes with everything in it made visible, a structure is its name with its fields in
braces, and a tagged value is its tag with the value in parentheses.

Main definitions:

* `ZoneKeeper.Text.escapeChar` — one character inside the quotes;
* `ZoneKeeper.Text.quoted` — a text in quotes;
* `ZoneKeeper.Text.inspectFields`, `ZoneKeeper.Text.inspectTagged` — structures and tagged values.
-/

import ZoneKeeper.Text.Printable

set_option autoImplicit false

namespace ZoneKeeper.Text

/-- One character of an inspected text: the quote and the backslash take a backslash, four
controls have names, an unprintable character is written as its code point. -/
def escapeChar (c : Char) : List Char :=
  if c = '"' ∨ c = '\\' then ['\\', c]
  else if c = '\x00' then ['\\', '0']
  else if c = '\t' then ['\\', 't']
  else if c = '\n' then ['\\', 'n']
  else if c = '\r' then ['\\', 'r']
  else if isPrintable c then [c]
  else ['\\', 'u', '\x7b'] ++ Nat.toDigits 16 c.toNat ++ ['\x7d']

/-- The text between double quotes, each character escaped. -/
def quoted (s : String) : String :=
  String.ofList ('"' :: s.toList.flatMap escapeChar ++ ['"'])

/-- A structure: its name and its fields, each with the inspected text of its value. -/
def inspectFields (name : String) (fields : List (String × String)) : String :=
  name ++ " \x7b " ++ ", ".intercalate (fields.map fun f => f.1 ++ ": " ++ f.2) ++ " \x7d"

/-- A tagged value: the tag and the inspected text of the value. -/
def inspectTagged (tag value : String) : String :=
  tag ++ "(" ++ value ++ ")"

/-- A value that may be absent. -/
def inspectOption : Option String → String
  | none => "None"
  | some value => inspectTagged "Some" value

/-- A truth value. -/
def inspectBool (b : Bool) : String :=
  if b then "true" else "false"

end ZoneKeeper.Text
