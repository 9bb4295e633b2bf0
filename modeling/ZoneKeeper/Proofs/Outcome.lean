/-
**What outcomes say about records.**

An outcome that reports a record as made names the record and the id that the provider chose for it.
That id says nothing about the update itself, so two outcomes are often to be compared without it.

Main definitions:

* `ZoneKeeper.Outcome.withCreatedId` — the outcome, with another id where a record was made;
* `ZoneKeeper.Outcome.made?`, `ZoneKeeper.recordsMade` — the record that an outcome reports as made.
-/

import ZoneKeeper.Error
import ZoneKeeper.Outcome
import ZoneKeeper.Record

set_option autoImplicit false

namespace ZoneKeeper

namespace Outcome

/-- The outcome, with another id where a record was made. -/
def withCreatedId (id : String) : Outcome → Outcome
  | .created name _ address ttl => .created name id address ttl
  | o => o

theorem withCreatedId_of_not_changed {o : Outcome} (h : o.changed = false) (id : String) :
    o.withCreatedId id = o := by
  cases o with
  | created name recordId address ttl => cases h
  | _ => rfl

/-- The record that the outcome reports as made. -/
def made? : Outcome → Option Record
  | .created name id address ttl => some ⟨id, .a, name, address.text, ttl⟩
  | _ => none

end Outcome

/-- The records that an update reports as made: one if it made one, none otherwise. -/
def recordsMade : Except Error Outcome → List Record
  | .ok o => o.made?.toList
  | .error _ => []

end ZoneKeeper
