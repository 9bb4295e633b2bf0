/-
**JSON values.**

A value holds what a reader can observe of a JSON text and no more: member order and repeated
members are kept, layout is not.  A string literal can be well formed without denoting a text,
when it escapes half of a surrogate pair or its bytes are no UTF-8; such a literal is kept without
a text, so that it can be skipped but not read.

Main definitions:

* `ZoneKeeper.Json.Value` — JSON values;
* `ZoneKeeper.Json.numeralInt?` — the integer that a numeral denotes;
* `ZoneKeeper.Json.Value.text?`, `ZoneKeeper.Json.Value.bool?`, `ZoneKeeper.Json.Value.uint32?`,
  `ZoneKeeper.Json.Value.int64?`, `ZoneKeeper.Json.Value.list?`,
  `ZoneKeeper.Json.Value.nullable?` — reading a value as one of a type.
-/

import ZoneKeeper.Text.Decimal

set_option autoImplicit false

namespace ZoneKeeper.Json

open ZoneKeeper.Text

/-- A JSON value. -/
inductive Value
  | null
  | bool (b : Bool)
  /-- A number, by its numeral. -/
  | number (numeral : List Char)
  /-- A string literal, by its text if it has one. -/
  | string (text : Option String)
  | array (items : List Value)
  | object (members : List (Option String × Value))

/-- The value of a list of decimal digits. -/
def digitsInt? (cs : List Char) : Option Nat :=
  if cs = [] then none
  else cs.foldl (fun acc c => acc.bind fun n => (digitValue? c).map (n * 10 + ·)) (some 0)

/-- The integer that a numeral denotes.  A fraction, an exponent, even a vanishing one, and the
negative zero make a numeral that is no integer. -/
def numeralInt? : List Char → Option Int
  | '-' :: ds =>
      match digitsInt? ds with
      | some (n + 1) => some (Int.negSucc n)
      | _ => none
  | ds => (digitsInt? ds).map Int.ofNat

namespace Value

/-- The text of a string. -/
def text? : Value → Option String
  | .string text => text
  | _ => none

/-- A truth value. -/
def bool? : Value → Option Bool
  | .bool b => some b
  | _ => none

/-- An integer between two bounds. -/
def intBetween? (low high : Int) : Value → Option Int
  | .number numeral => (numeralInt? numeral).filter fun n => low ≤ n && n ≤ high
  | _ => none

/-- An unsigned 32-bit integer. -/
def uint32? (v : Value) : Option UInt32 :=
  (v.intBetween? 0 4294967295).map fun n => UInt32.ofNat n.toNat

/-- A signed 64-bit integer. -/
def int64? (v : Value) : Option Int :=
  v.intBetween? (-9223372036854775808) 9223372036854775807

/-- A list, all of whose items can be read. -/
def list? {α : Type} (item : Value → Option α) : Value → Option (List α)
  | .array items => items.mapM item
  | _ => none

/-- A value that may be null. -/
def nullable? {α : Type} (read : Value → Option α) : Value → Option (Option α)
  | .null => some none
  | v => (read v).map some

end Value

end ZoneKeeper.Json
