/-
**Providers.**

A provider offers four operations: finding a zone's id, listing the records of a name, creating a
record and replacing one.  Each is one round trip that answers or fails, in whatever monad the
provider lives; nothing is retried and nothing is remembered.

A round trip is also a value, a `Call`.  Over any provider whose effects are a state, the recorded
provider does the same and notes each call, so that what was asked of a provider can be spoken
about without looking into it.

Main definitions:

* `ZoneKeeper.Provider` — the four operations;
* `ZoneKeeper.Call` — an operation with its arguments, `ZoneKeeper.Answer` — what it yields;
* `ZoneKeeper.Provider.perform` — the round trip that a call names;
* `ZoneKeeper.Recorded` — a state with the calls and log entries so far;
* `ZoneKeeper.Provider.recorded` — the provider that notes its calls.
-/

import ZoneKeeper.Error
import ZoneKeeper.Log
import ZoneKeeper.Record

set_option autoImplicit false

namespace ZoneKeeper

/-- A DNS provider. -/
structure Provider (m : Type → Type) where
  /-- The provider's name in logs and reports. -/
  name : String
  /-- The id of the zone with the given name. -/
  resolveZone : String → m (Except Error String)
  /-- The records of a type and name in the zone with the given id, in the provider's order. -/
  listRecords : String → RecordType → String → m (Except Error (List Record))
  /-- Writes a new record into the zone with the given id. -/
  createRecord : String → Payload → m (Except Error Record)
  /-- Replaces the record with the given id, the second argument, in a zone. -/
  updateRecord : String → String → Payload → m (Except Error Record)

/-- A round trip to a provider. -/
inductive Call
  | resolveZone (zone : String)
  | listRecords (zoneId : String) (type : RecordType) (name : String)
  | createRecord (zoneId : String) (payload : Payload)
  | updateRecord (zoneId recordId : String) (payload : Payload)
  deriving DecidableEq, Repr

namespace Call

/-- The operation that a call performs. -/
def operation : Call → Operation
  | .resolveZone _ => .resolveZone
  | .listRecords _ _ _ => .fetch
  | .createRecord _ _ => .create
  | .updateRecord _ _ _ => .update

/-- The call changes a record. -/
def isWrite : Call → Bool
  | .createRecord _ _ => true
  | .updateRecord _ _ _ => true
  | _ => false

end Call

/-- What a round trip yields. -/
inductive Answer
  | zoneId (id : String)
  | records (rs : List Record)
  | record (r : Record)
  deriving DecidableEq, Repr

/-- The round trip that a call names. -/
def Provider.perform {m : Type → Type} [Monad m] (p : Provider m) :
    Call → m (Except Error Answer)
  | .resolveZone zone => return (← p.resolveZone zone).map .zoneId
  | .listRecords zoneId type name => return (← p.listRecords zoneId type name).map .records
  | .createRecord zoneId payload => return (← p.createRecord zoneId payload).map .record
  | .updateRecord zoneId recordId payload =>
      return (← p.updateRecord zoneId recordId payload).map .record

/-! ### Recording -/

/-- A state, the calls made on it and the entries logged, in order. -/
structure Recorded (σ : Type) where
  state : σ
  calls : List Call := []
  log : List Entry := []

namespace Recorded

variable {σ α : Type}

/-- Runs an action on the state and notes the call that it answers. -/
def noting (call : Call) (act : StateM σ α) : StateM (Recorded σ) α := fun s =>
  let result := act s.state
  (result.1, { s with state := result.2, calls := s.calls ++ [call] })

/-- The sink that keeps the entries. -/
def write : LogSink (StateM (Recorded σ)) := fun entry s =>
  ((), { s with log := s.log ++ [entry] })

end Recorded

/-- The provider that does the same and notes each call. -/
def Provider.recorded {σ : Type} (p : Provider (StateM σ)) : Provider (StateM (Recorded σ)) where
  name := p.name
  resolveZone zone := Recorded.noting (.resolveZone zone) (p.resolveZone zone)
  listRecords zoneId type name :=
    Recorded.noting (.listRecords zoneId type name) (p.listRecords zoneId type name)
  createRecord zoneId payload :=
    Recorded.noting (.createRecord zoneId payload) (p.createRecord zoneId payload)
  updateRecord zoneId recordId payload :=
    Recorded.noting (.updateRecord zoneId recordId payload) (p.updateRecord zoneId recordId payload)

end ZoneKeeper
