/-
**Sessions on the provider that lives in memory.**

A session has one store, any number of handles on it and any number of reconcilers.  Handles share
the store and differ only in the zones they know by name; a reconciler keeps the zone it was bound
to.  A session is driven by steps, and each step reports its result, the call counts after it, the
records of the zones watched so far, and what the reconcilers logged during it.

Main definitions:

* `ZoneKeeper.Memory.Step` — what can be asked of a session;
* `ZoneKeeper.Memory.Result` — what a step comes to;
* `ZoneKeeper.Memory.Session` — the store, the handles and the reconcilers;
* `ZoneKeeper.Memory.Session.step` — one step;
* `ZoneKeeper.Memory.Session.run` — the reports of a sequence of steps.
-/

import ZoneKeeper.Memory.Store
import ZoneKeeper.Reconciler

set_option autoImplicit false

namespace ZoneKeeper.Memory

/-- A reconciler on the store. -/
abbrev StoreReconciler := Reconciler (StateM (Recorded Store))

/-- What can be asked of a session.  Handles and reconcilers are named by their index. -/
inductive Step
  /-- Makes another handle with the same zones. -/
  | clone (handle : Nat)
  /-- Enters a zone into the table of a handle. -/
  | withZone (handle : Nat) (zone zoneId : String)
  /-- Puts a record into a zone without a call. -/
  | insertRecord (zoneId : String) (record : Record)
  /-- Arms an operation to fail. -/
  | failOn (op : Operation)
  /-- Lets no operation fail. -/
  | clearFailure
  /-- Calls an operation directly. -/
  | call (handle : Nat) (call : Call)
  /-- Asks for the provider's name. -/
  | providerName (handle : Nat)
  /-- Binds a reconciler to a zone through a handle. -/
  | bind (handle : Nat) (zone : String)
  /-- Brings a record to an address, given by its text. -/
  | update (reconciler : Nat) (name address : String) (ttl : Int32)
  deriving DecidableEq, Repr

/-- What a step comes to. -/
inductive Result
  | done
  | handle (index : Nat)
  | answer (a : Answer)
  | name (text : String)
  | bound (zone : Zone) (inspected : String)
  | outcome (o : Outcome)
  | failed (e : Error)
  | noReconciler
  | noAddress
  deriving DecidableEq, Repr

/-- The store, the zone tables of the handles, the reconcilers, and the ids of the watched zones. -/
structure Session where
  store : Store := {}
  handles : List ZoneTable := [[]]
  reconcilers : List StoreReconciler := []
  watched : List String := []

/-- What a step reports. -/
structure Report where
  result : Result
  counts : CallCounts
  records : List (String × List Record)
  log : List Entry

namespace Session

/-- A session with one handle that knows the zones, given as names with ids.  It watches them. -/
def start (zones : List (String × String)) : Session where
  handles := [zones.foldl (fun t z => t.register z.1 z.2) []]
  watched := (zones.map (·.2)).eraseDups

/-- The zones that a handle knows. -/
def zonesOf (s : Session) (handle : Nat) : ZoneTable :=
  s.handles.getD handle []

/-- The provider of a handle, noting its calls. -/
def providerOf (s : Session) (handle : Nat) : Provider (StateM (Recorded Store)) :=
  (provider (s.zonesOf handle)).recorded

/-- Does the step: its result, the session after it, and what was logged. -/
def perform (s : Session) : Step → Result × Session × List Entry
  | .clone handle =>
      (.handle s.handles.length, { s with handles := s.handles ++ [s.zonesOf handle] }, [])
  | .withZone handle zone zoneId =>
      let zones := (s.zonesOf handle).register zone zoneId
      (.done, { s with handles := s.handles.set handle zones }, [])
  | .insertRecord zoneId record =>
      (.done, { s with store := s.store.insert zoneId record }, [])
  | .failOn op => (.done, { s with store := { s.store with failOn := some op } }, [])
  | .clearFailure => (.done, { s with store := { s.store with failOn := none } }, [])
  | .providerName handle => (.name (s.providerOf handle).name, s, [])
  | .call handle call =>
      let run := (s.providerOf handle).perform call ⟨s.store, [], []⟩
      let after := { s with store := run.2.state }
      match run.1 with
      | .error e => (.failed e, after, run.2.log)
      | .ok a => (.answer a, after, run.2.log)
  | .bind handle zone =>
      let run := Reconciler.bind (s.providerOf handle) zone Recorded.write ⟨s.store, [], []⟩
      let after := { s with store := run.2.state }
      match run.1 with
      | .error e => (.failed e, after, run.2.log)
      | .ok r =>
          (.bound r.zone r.inspect, { after with reconcilers := s.reconcilers ++ [r] }, run.2.log)
  | .update reconciler name address ttl =>
      match s.reconcilers[reconciler]?, Address.parse? address with
      | none, _ => (.noReconciler, s, [])
      | some _, none => (.noAddress, s, [])
      | some r, some a =>
          let run := r.update name a ttl ⟨s.store, [], []⟩
          let after := { s with store := run.2.state }
          match run.1 with
          | .error e => (.failed e, after, run.2.log)
          | .ok o => (.outcome o, after, run.2.log)

/-- Watches a zone from now on. -/
def watch (s : Session) (zoneId : String) : Session :=
  if zoneId ∈ s.watched then s else { s with watched := s.watched ++ [zoneId] }

/-- One step: its report and the session after it. -/
def step (s : Session) (step : Step) : Report × Session :=
  let (result, after, log) := s.perform step
  (⟨result, after.store.counts, after.watched.map fun z => (z, after.store.records z), log⟩, after)

/-- The reports of the steps, in order, and the session after them.  A step may come with a zone to
watch from then on. -/
def run (s : Session) : List (Option String × Step) → List Report × Session
  | [] => ([], s)
  | (zoneId, x) :: xs =>
      let (report, after) := ((zoneId.map s.watch).getD s).step x
      let (reports, last) := after.run xs
      (report :: reports, last)

end Session

end ZoneKeeper.Memory
