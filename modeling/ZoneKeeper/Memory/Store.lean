/-
**The store of the provider that lives in memory.**

The store keeps the records of each zone in the order in which they came, counts the calls of each
operation, hands out record ids in ascending order, and can be armed so that one operation fails.
Every operation is counted before anything else happens to it; an armed one fails next, and only
then is the work done.

Main definitions:

* `ZoneKeeper.Memory.CallCounts` — how often each operation was called;
* `ZoneKeeper.Memory.Store` — the store;
* `ZoneKeeper.Memory.Store.listRecords`, `ZoneKeeper.Memory.Store.createRecord`,
  `ZoneKeeper.Memory.Store.updateRecord`, `ZoneKeeper.Memory.Store.resolveZone` — the operations;
* `ZoneKeeper.Memory.ZoneTable` — the zones that a handle knows by name;
* `ZoneKeeper.Memory.provider` — the store as a provider.

Main results:

* `ZoneKeeper.Memory.Store.records_setRecords` — what replacing one zone's records does to all.
-/

import ZoneKeeper.Provider

set_option autoImplicit false

namespace ZoneKeeper.Memory

open ZoneKeeper.Text

/-- How often each operation was called. -/
structure CallCounts where
  resolveZone : Nat := 0
  list : Nat := 0
  create : Nat := 0
  update : Nat := 0
  deriving DecidableEq, Repr

namespace CallCounts

/-- The calls that write. -/
def writes (c : CallCounts) : Nat :=
  c.create + c.update

/-- One more call of the operation. -/
def add (c : CallCounts) : Operation → CallCounts
  | .resolveZone => { c with resolveZone := c.resolveZone + 1 }
  | .fetch => { c with list := c.list + 1 }
  | .create => { c with create := c.create + 1 }
  | .update => { c with update := c.update + 1 }

end CallCounts

/-- The store. -/
structure Store where
  /-- The records of the zone with the given id, oldest first. -/
  records : String → List Record := fun _ => []
  /-- The operation that is armed to fail. -/
  failOn : Option Operation := none
  counts : CallCounts := {}
  /-- How many record ids have been handed out. -/
  issued : Nat := 0

/-- The provider's name. -/
def providerName : String := "memory"

/-- The failure of an armed operation. -/
def injectedFailure (op : Operation) : Error :=
  .provider providerName ("injected failure on " ++ op.text)

/-- The `n`-th record id. -/
def recordId (n : Nat) : String :=
  "rec-" ++ natText n

/-- The records with the first one of the given id replaced, if there is one. -/
def replaceFirst (id : String) (new : Record) : List Record → Option (List Record)
  | [] => none
  | r :: rs => if r.id = id then some (new :: rs) else (replaceFirst id new rs).map (r :: ·)

namespace Store

/-- Replaces the records of one zone. -/
def setRecords (s : Store) (zoneId : String) (rs : List Record) : Store :=
  { s with records := fun z => if z = zoneId then rs else s.records z }

/-- Puts a record at the end of a zone. -/
def insert (s : Store) (zoneId : String) (r : Record) : Store :=
  s.setRecords zoneId (s.records zoneId ++ [r])

/-- Counts a call of the operation, and lets it fail if it is armed. -/
def attempt {α : Type} (op : Operation) (work : Store → Except Error α × Store) :
    StateM Store (Except Error α) := fun s =>
  let counted := { s with counts := s.counts.add op }
  if s.failOn = some op then (.error (injectedFailure op), counted) else work counted

/-- The id that the table has for a zone's name. -/
def resolveZone (lookup : String → Option String) (zone : String) :
    StateM Store (Except Error String) :=
  attempt .resolveZone fun s =>
    match lookup zone with
    | some id => (.ok id, s)
    | none => (.error (.notFound ("Zone not found: " ++ zone)), s)

/-- The records of a type and name in a zone, oldest first. -/
def listRecords (zoneId : String) (type : RecordType) (name : String) :
    StateM Store (Except Error (List Record)) :=
  attempt .fetch fun s =>
    (.ok ((s.records zoneId).filter fun r => r.type == type && r.name == name), s)

/-- Puts a record with the next id at the end of a zone. -/
def createRecord (zoneId : String) (payload : Payload) : StateM Store (Except Error Record) :=
  attempt .create fun s =>
    let r := payload.toRecord (recordId (s.issued + 1))
    (.ok r, { s.insert zoneId r with issued := s.issued + 1 })

/-- Replaces the first record of a zone that has the id. -/
def updateRecord (zoneId id : String) (payload : Payload) : StateM Store (Except Error Record) :=
  attempt .update fun s =>
    match replaceFirst id (payload.toRecord id) (s.records zoneId) with
    | none => (.error (.notFound ("DNS record not found: " ++ id)), s)
    | some rs => (.ok (payload.toRecord id), s.setRecords zoneId rs)

/-- Replacing the records of one zone leaves the others alone. -/
theorem records_setRecords (s : Store) (zoneId z : String) (rs : List Record) :
    (s.setRecords zoneId rs).records z = if z = zoneId then rs else s.records z := rfl

end Store

/-! ### Handles -/

/-- The zones that a handle knows: names with ids, the latest entry for a name first. -/
abbrev ZoneTable := List (String × String)

namespace ZoneTable

/-- Enters a zone, in place of an earlier entry for its name. -/
def register (t : ZoneTable) (name id : String) : ZoneTable :=
  (name, id) :: t

/-- The id of the zone with the given name. -/
def find? (t : ZoneTable) (name : String) : Option String :=
  t.lookup name

@[simp] theorem find?_register (t : ZoneTable) (name id : String) :
    (t.register name id).find? name = some id := by
  simp [find?, register]

end ZoneTable

/-- The store as a provider, with the zones of one handle. -/
def provider (zones : ZoneTable) : Provider (StateM Store) where
  name := providerName
  resolveZone := Store.resolveZone zones.find?
  listRecords := Store.listRecords
  createRecord := Store.createRecord
  updateRecord := Store.updateRecord

end ZoneKeeper.Memory
