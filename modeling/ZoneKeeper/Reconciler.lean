/-
**Bringing a record to an address.**

A reconciler is bound to one zone of one provider.  Each update is one decision: a name outside
the zone is skipped; otherwise the provider lists the records of the name, and the first of them
is left alone if it has the address, replaced if it has not, and made if there is none.  A failed
round trip ends the update, and what is logged is what has happened.

Main definitions:

* `ZoneKeeper.effectiveTtl` — the time to live that is written for a requested one;
* `ZoneKeeper.Reconciler` — a provider, a zone and a log;
* `ZoneKeeper.Reconciler.bind` — binding to a zone by its name;
* `ZoneKeeper.Reconciler.update` — bringing a record to an address.
-/

import ZoneKeeper.DomainName
import ZoneKeeper.Outcome
import ZoneKeeper.Provider
import ZoneKeeper.RecordName

set_option autoImplicit false

namespace ZoneKeeper

open ZoneKeeper.Text

/-- The time to live that is written when less than a second is asked for. -/
def defaultTtl : UInt32 := 60

/-- The time to live that is written for a requested one. -/
def effectiveTtl (ttl : Int32) : UInt32 :=
  if ttl < 1 then defaultTtl else ttl.toUInt32

/-- A provider, the zone whose records are managed there, and a log. -/
structure Reconciler (m : Type → Type) where
  provider : Provider m
  zone : Zone
  log : LogSink m

namespace Reconciler

variable {m : Type → Type}

/-- The inspected value. -/
def inspect (r : Reconciler m) : String :=
  inspectFields "Reconciler"
    [("provider", quoted r.provider.name), ("zone", r.zone.inspect)]

/-- The failure of a zone lookup, as the one who binds a reconciler sees it: a zone that is not
there and a credential that is not accepted are matters of configuration. -/
def bindError (zone : String) : Error → Error
  | .notFound _ => .config ("failed to get zone ID for " ++ zone ++ ": zone not found")
  | .authentication detail =>
      .config ("failed to get zone ID for " ++ zone ++ ": credential rejected: " ++ detail)
  | e => e.during .resolveZone zone

/-- The entry for a zone that was found. -/
def resolvedEntry (provider : String) (zone : Zone) : Entry :=
  ⟨.debug, .reconciler,
    "Resolved zone " ++ zone.name ++ " to ID " ++ zone.id ++ " via " ++ provider⟩

/-- The entry for an outcome in a zone. -/
def outcomeEntry (zone : String) : Outcome → Entry
  | .outsideZone name =>
      ⟨.warn, .reconciler, "Ignoring record " ++ name ++ ": does not belong to zone " ++ zone⟩
  | .unchanged name _ => ⟨.debug, .reconciler, "A record " ++ name ++ " already up-to-date"⟩
  | .updated name _ previous address _ =>
      ⟨.info, .reconciler,
        "Updated A record: " ++ name ++ " -> " ++ address.text ++ " (was: " ++ previous ++ ")"⟩
  | .created name _ address _ =>
      ⟨.info, .reconciler, "Created new A record: " ++ name ++ " -> " ++ address.text⟩

variable [Monad m]

/-- Binds a reconciler to the zone with the given name.  A name that is no domain name is refused
without asking the provider. -/
def bind (provider : Provider m) (zoneName : String) (log : LogSink m) :
    m (Except Error (Reconciler m)) := do
  match DomainName.fault? zoneName with
  | some fault => return .error (.config fault.message)
  | none =>
      match ← provider.resolveZone zoneName with
      | .error e => return .error (bindError zoneName e)
      | .ok id =>
          log (resolvedEntry provider.name ⟨id, zoneName⟩)
          return .ok ⟨provider, ⟨id, zoneName⟩, log⟩

/-- Logs an outcome and answers it. -/
def finish (r : Reconciler m) (outcome : Outcome) : m (Except Error Outcome) := do
  r.log (outcomeEntry r.zone.name outcome)
  return .ok outcome

/-- Makes a record that is not there yet. -/
def createRecord (r : Reconciler m) (name : String) (address : Address) (ttl : UInt32) :
    m (Except Error Outcome) := do
  match ← r.provider.createRecord r.zone.id ⟨.a, name, address.text, ttl⟩ with
  | .error e => return .error (e.during .create name)
  | .ok record => r.finish (.created name record.id address ttl)

/-- Leaves a record alone that has the address, and replaces one that has not. -/
def settleRecord (r : Reconciler m) (existing : Record) (name : String) (address : Address)
    (ttl : UInt32) : m (Except Error Outcome) := do
  if existing.content = address.text then
    r.finish (.unchanged name address)
  else
    match ← r.provider.updateRecord r.zone.id existing.id ⟨.a, name, address.text, ttl⟩ with
    | .error e => return .error (e.during .update name)
    | .ok _ => r.finish (.updated name existing.id existing.content address ttl)

/-- Brings a record of the zone, given by its full name, to the address. -/
def updateInZone (r : Reconciler m) (name : String) (address : Address) (ttl : UInt32) :
    m (Except Error Outcome) := do
  match ← r.provider.listRecords r.zone.id .a name with
  | .error e => return .error (e.during .fetch name)
  | .ok [] => r.createRecord name address ttl
  | .ok (existing :: _) => r.settleRecord existing name address ttl

/-- Brings the record of the given name to the address.  A name outside the zone is skipped. -/
def update (r : Reconciler m) (name : String) (address : Address) (ttl : Int32) :
    m (Except Error Outcome) :=
  let fullName := RecordName.complete name
  if RecordName.inZone r.zone.name fullName then
    r.updateInZone fullName address (effectiveTtl ttl)
  else
    r.finish (.outsideZone fullName)

end Reconciler

end ZoneKeeper
