/-
**Records with named fields.**

A record with named fields is read from an object, whose members may come in any order and among
others that are skipped, or from an array that gives the fields in their declared order.  A field
must not be given twice, and every key of the object must be a text, also one that is skipped.
Fields at the end of the array may be left off if the record says so.

Main definitions:

* `ZoneKeeper.Json.Field` — a field's name and whether an array may leave it off;
* `ZoneKeeper.Json.fieldValues?` — the value given for each field, if any;
* `ZoneKeeper.Json.required?`, `ZoneKeeper.Json.defaulted?`, `ZoneKeeper.Json.optional?` — the three
  ways to read a field that may be missing.
-/

import ZoneKeeper.Json.Value

set_option autoImplicit false

namespace ZoneKeeper.Json

/-- A field of a record. -/
structure Field where
  name : String
  /-- The field may be left off the end of an array. -/
  mayEndArray : Bool := false
  deriving DecidableEq, Repr

/-- The members of an object, if every key is a text. -/
def keyedMembers? : List (Option String × Value) → Option (List (String × Value))
  | [] => some []
  | (none, _) :: _ => none
  | (some key, v) :: r => (keyedMembers? r).map ((key, v) :: ·)

/-- The value of a key, of which there must not be two. -/
def memberValue? (ms : List (String × Value)) (key : String) : Option (Option Value) :=
  match ms.filter fun m => m.1 == key with
  | [] => some none
  | [m] => some (some m.2)
  | _ => none

/-- The values of the fields in an array, in order. -/
def itemValues? : List Field → List Value → Option (List (Option Value))
  | [], [] => some []
  | [], _ :: _ => none
  | f :: fs, [] => if f.mayEndArray then (itemValues? fs []).map (none :: ·) else none
  | _ :: fs, v :: vs => (itemValues? fs vs).map (some v :: ·)

/-- The value given for each field, in the order of the fields. -/
def fieldValues? (fields : List Field) : Value → Option (List (Option Value))
  | .object members =>
      (keyedMembers? members).bind fun ms => fields.mapM fun f => memberValue? ms f.name
  | .array items => itemValues? fields items
  | _ => none

variable {α : Type}

/-- A field that must be given. -/
def required? (read : Value → Option α) : Option Value → Option α
  | none => none
  | some v => read v

/-- A field with a value for when it is missing.  Null is not missing. -/
def defaulted? (fallback : α) (read : Value → Option α) : Option Value → Option α
  | none => some fallback
  | some v => read v

/-- A field that may be missing or null. -/
def optional? (read : Value → Option α) : Option Value → Option (Option α)
  | none => some none
  | some v => v.nullable? read

end ZoneKeeper.Json
