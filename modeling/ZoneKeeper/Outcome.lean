/-
**Outcomes of an update.**

Main definitions:

* `ZoneKeeper.Outcome` — what bringing a record to an address came to;
* `ZoneKeeper.Outcome.changed` — the record was written;
* `ZoneKeeper.Outcome.describe` — the outcome in one line for the operator.
-/

import ZoneKeeper.Address
import ZoneKeeper.Text.Inspect

set_option autoImplicit false

namespace ZoneKeeper

open ZoneKeeper.Text

/-- What bringing a record to an address came to. -/
inductive Outcome
  /-- The name does not belong to the zone; nothing was asked of the provider. -/
  | outsideZone (name : String)
  /-- The record already had the address. -/
  | unchanged (name : String) (address : Address)
  /-- The record was there with another content and was replaced. -/
  | updated (name recordId previous : String) (address : Address) (ttl : UInt32)
  /-- There was no record, so one was made. -/
  | created (name recordId : String) (address : Address) (ttl : UInt32)
  deriving DecidableEq, Repr

namespace Outcome

/-- The full name of the record. -/
def name : Outcome → String
  | .outsideZone name => name
  | .unchanged name _ => name
  | .updated name _ _ _ _ => name
  | .created name _ _ _ => name

/-- The record was written. -/
def changed : Outcome → Bool
  | .updated _ _ _ _ _ => true
  | .created _ _ _ _ => true
  | _ => false

/-- The outcome's tag. -/
def tag : Outcome → String
  | .outsideZone _ => "OutsideZone"
  | .unchanged _ _ => "Unchanged"
  | .updated _ _ _ _ _ => "Updated"
  | .created _ _ _ _ => "Created"

/-- The outcome in one line for the operator. -/
def describe : Outcome → String
  | .outsideZone name => name ++ ": skipped (outside zone)"
  | .unchanged name address => name ++ ": unchanged (" ++ address.text ++ ")"
  | .updated name _ previous address ttl =>
      name ++ ": updated " ++ previous ++ " -> " ++ address.text ++
        " (ttl " ++ natText ttl.toNat ++ ")"
  | .created name _ address ttl =>
      name ++ ": created " ++ address.text ++ " (ttl " ++ natText ttl.toNat ++ ")"

/-- The inspected value. -/
def inspect : Outcome → String
  | .outsideZone name => inspectFields "OutsideZone" [("record_name", quoted name)]
  | .unchanged name address =>
      inspectFields "Unchanged" [("record_name", quoted name), ("ip", address.text)]
  | .updated name recordId previous address ttl =>
      inspectFields "Updated"
        [("record_name", quoted name), ("record_id", quoted recordId),
          ("previous_content", quoted previous), ("ip", address.text),
          ("ttl", natText ttl.toNat)]
  | .created name recordId address ttl =>
      inspectFields "Created"
        [("record_name", quoted name), ("record_id", quoted recordId), ("ip", address.text),
          ("ttl", natText ttl.toNat)]

end Outcome

end ZoneKeeper
