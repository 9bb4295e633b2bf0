/-
**Sessions on the Cloudflare API.**

A session has at most one client and at most one reconciler.  A step that makes one replaces the
one before, unless making it fails; a reconciler keeps the client it was made with.  Each step has
its own queue of canned replies and reports its result, the requests that the host received and
the log.

Main definitions:

* `ZoneKeeper.Cloudflare.Step` — what can be asked of a session;
* `ZoneKeeper.Cloudflare.Result` — what a step comes to;
* `ZoneKeeper.Cloudflare.Session` — the client and the reconciler;
* `ZoneKeeper.Cloudflare.Session.step` — one step;
* `ZoneKeeper.Cloudflare.Session.run` — the reports of a sequence of steps.
-/

import ZoneKeeper.Cloudflare.Client
import ZoneKeeper.Http.Link

set_option autoImplicit false

namespace ZoneKeeper.Cloudflare

open ZoneKeeper.Http

/-- A reconciler over a link. -/
abbrev LinkReconciler := Reconciler (StateM Link)

/-- What can be asked of a session. -/
inductive Step
  /-- Makes a client for a base address. -/
  | client (token base : String) (dryRun : Bool)
  /-- Makes a client from settings. -/
  | clientOfSettings (settings : Settings)
  /-- Makes a client from settings and a reconciler on it. -/
  | connect (settings : Settings)
  /-- Makes a reconciler on the session's client. -/
  | bind (zone : String)
  /-- Calls an operation directly. -/
  | call (call : Call)
  /-- Asks for the provider's name. -/
  | providerName
  /-- Brings a record to an address, given by its text. -/
  | update (name address : String) (ttl : Int32)
  deriving DecidableEq, Repr

/-- What a step comes to. -/
inductive Result
  | client (inspected : String) (dryRun : Bool)
  | bound (zone : Zone) (inspected : String)
  | answer (a : Answer)
  | name (text : String)
  | outcome (o : Outcome)
  | failed (e : Error)
  | noClient
  | noReconciler
  | noAddress
  deriving DecidableEq, Repr

/-- The client and the reconciler. -/
structure Session where
  client : Option Client := none
  reconciler : Option LinkReconciler := none

/-- What a step reports. -/
structure Report where
  result : Result
  requests : List Request
  log : List Entry

namespace Session

/-- The client as a provider over a link. -/
def providerOf (c : Client) : Provider (StateM Link) :=
  c.provider Link.exchange Link.write

/-- Keeps a client that has been made. -/
def keepClient (s : Session) : Except Error Client → Result × Session
  | .error e => (.failed e, s)
  | .ok c => (.client c.inspect c.dryRun, { s with client := some c })

/-- Keeps a reconciler that has been made. -/
def keepReconciler (s : Session) : Except Error LinkReconciler → Result × Session
  | .error e => (.failed e, s)
  | .ok r => (.bound r.zone r.inspect, { s with reconciler := some r })

/-- Does the step on a link: its result and the session after it. -/
def perform (s : Session) : Step → StateM Link (Result × Session)
  | .client token base dryRun => return s.keepClient (Client.create? token base dryRun)
  | .clientOfSettings settings => return s.keepClient (Client.ofSettings settings)
  | .connect settings => return s.keepReconciler (← connect Link.exchange Link.write settings)
  | .bind zone =>
      match s.client with
      | none => return (.noClient, s)
      | some c => return s.keepReconciler (← Reconciler.bind (providerOf c) zone Link.write)
  | .call call =>
      match s.client with
      | none => return (.noClient, s)
      | some c => do
          match ← (providerOf c).perform call with
          | .error e => return (.failed e, s)
          | .ok a => return (.answer a, s)
  | .providerName =>
      match s.client with
      | none => return (.noClient, s)
      | some c => return (.name (providerOf c).name, s)
  | .update name address ttl =>
      match s.reconciler, Address.parse? address with
      | none, _ => return (.noReconciler, s)
      | some _, none => return (.noAddress, s)
      | some r, some a => do
          match ← r.update name a ttl with
          | .error e => return (.failed e, s)
          | .ok o => return (.outcome o, s)

/-- One step over a link to `host` with a queue of replies: its report and the session after it. -/
def step (host : Option WebOrigin) (s : Session) (x : Step) (queue : List Canned) :
    Report × Session :=
  let ((result, after), link) := s.perform x { host, queue }
  (⟨result, link.requests, link.log⟩, after)

/-- The reports of the steps, in order, and the session after them. -/
def run (host : Option WebOrigin) (s : Session) :
    List (Step × List Canned) → List Report × Session
  | [] => ([], s)
  | (x, queue) :: xs =>
      let (report, after) := s.step host x queue
      let (reports, last) := after.run host xs
      (report :: reports, last)

end Session

end ZoneKeeper.Cloudflare
