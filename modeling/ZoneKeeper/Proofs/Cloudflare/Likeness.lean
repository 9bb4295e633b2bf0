/-
**Sessions side by side.**

A likeness says when two clients, and when two links, are taken for the same.  If drafts that
clients alike send over links alike come to the same, then so do whole sessions: steps that make
clients alike, and are otherwise the same, give the same results one by one, and each pair of steps
leaves links alike.  A client in a dry run sends nothing but reads, so only those have to come to
the same.

Main definitions:

* `ZoneKeeper.Cloudflare.Likeness` — a likeness of clients and of links;
* `ZoneKeeper.Cloudflare.Likeness.Sessions`, `ZoneKeeper.Cloudflare.Likeness.Steps`,
  `ZoneKeeper.Cloudflare.Likeness.Reports` — what it says about sessions, steps and reports.

Main results:

* `ZoneKeeper.Cloudflare.Likeness.provider` — clients alike are providers alike;
* `ZoneKeeper.Cloudflare.Likeness.perform` — steps alike are coupled;
* `ZoneKeeper.Cloudflare.Likeness.run` — **sessions alike report alike**.
-/

import Mathlib.Data.List.Forall2
import ZoneKeeper.Proofs.Cloudflare.Sending
import ZoneKeeper.Proofs.Coupling

set_option autoImplicit false

namespace ZoneKeeper.Cloudflare

open ZoneKeeper.Http

/-- A likeness of clients and of links: clients alike look the same, and what they send over links
alike comes to the same. -/
structure Likeness where
  Clients : Client → Client → Prop
  Links : Link → Link → Prop
  /-- Links that nothing has happened on are alike. -/
  fresh (host : Option WebOrigin) (queue : List Canned) : Links { host, queue } { host, queue }
  write (entry : Entry) : Coupled Links Eq (Link.write entry) (Link.write entry)
  inspect {c c' : Client} : Clients c c' → c.inspect = c'.inspect
  dryRun {c c' : Client} : Clients c c' → c.dryRun = c'.dryRun
  transmit {c c' : Client} {d : Draft} : Clients c c' →
    (c.dryRun = true → d.method.isWrite = false) →
    Coupled Links Eq (c.transmit d) (c'.transmit d)

namespace Likeness

variable (L : Likeness)

/-! ### Providers -/

/-- Drafts that clients alike send come to the same. -/
theorem send {L : Likeness} {c c' : Client} (hc : L.Clients c c') {α : Type} {d : Draft}
    (hd : c.dryRun = true → d.method.isWrite = false) (purpose : Purpose)
    (read : Json.Value → Option α) :
    Coupled L.Links Eq (c.send Link.exchange purpose read d)
      (c'.send Link.exchange purpose read d) := by
  intro l l' hl
  obtain ⟨hsame, hlinks⟩ := L.transmit hc hd l l' hl
  rw [Client.send_eq, Client.send_eq]
  exact ⟨congrArg (Client.received purpose read) hsame, hlinks⟩

/-- Clients alike branch alike on whether they are in a dry run. -/
theorem dry_or_live {L : Likeness} {c c' : Client} (hc : L.Clients c c') {α : Type}
    {dry dry' live live' : StateM Link α} (hdry : Coupled L.Links Eq dry dry')
    (hlive : ¬ c.dryRun = true → Coupled L.Links Eq live live') :
    Coupled L.Links Eq (if c.dryRun then dry else live) (if c'.dryRun then dry' else live') := by
  rw [← L.dryRun hc]
  split
  · exact hdry
  · next h => exact hlive h

section

variable {L} {c c' : Client} (hc : L.Clients c c') {log : LogSink (StateM Link)}
  (hlog : ∀ entry, Coupled L.Links Eq (log entry) (log entry))

include hc hlog

theorem resolveZone (zone : String) :
    Coupled L.Links Eq (c.resolveZone Link.exchange log zone)
      (c'.resolveZone Link.exchange log zone) := by
  refine (hlog _).bind_eq fun _ => (send hc (fun _ => rfl) _ _).bind_eq fun answer => ?_
  rcases answer with e | _ | ⟨entry, rest⟩
  · exact .pure rfl
  · exact .pure rfl
  · exact (hlog _).bind_eq fun _ => .pure rfl

theorem listRecords (zoneId : String) (type : RecordType) (name : String) :
    Coupled L.Links Eq (c.listRecords Link.exchange log zoneId type name)
      (c'.listRecords Link.exchange log zoneId type name) := by
  refine (hlog _).bind_eq fun _ => (send hc (fun _ => rfl) _ _).bind_eq fun answer => ?_
  cases answer with
  | error e => exact .pure rfl
  | ok entries => exact .pure rfl

theorem createRecord (zoneId : String) (payload : Payload) :
    Coupled L.Links Eq (c.createRecord Link.exchange log zoneId payload)
      (c'.createRecord Link.exchange log zoneId payload) := by
  refine dry_or_live hc ((hlog _).bind_eq fun _ => .pure rfl) fun hlive =>
    (send hc (fun hdry => absurd hdry hlive) _ _).bind_eq fun answer => ?_
  cases answer with
  | error e => exact .pure rfl
  | ok entry => exact .pure rfl

theorem updateRecord (zoneId recordId : String) (payload : Payload) :
    Coupled L.Links Eq (c.updateRecord Link.exchange log zoneId recordId payload)
      (c'.updateRecord Link.exchange log zoneId recordId payload) := by
  refine dry_or_live hc ((hlog _).bind_eq fun _ => .pure rfl) fun hlive =>
    (send hc (fun hdry => absurd hdry hlive) _ _).bind_eq fun answer => ?_
  cases answer with
  | error e => exact .pure rfl
  | ok entry => exact .pure rfl

/-- Clients alike are providers alike. -/
theorem provider :
    (c.provider Link.exchange log).Alike L.Links (c'.provider Link.exchange log) where
  name := rfl
  resolveZone := resolveZone hc hlog
  listRecords := listRecords hc hlog
  createRecord := createRecord hc hlog
  updateRecord := updateRecord hc hlog

end

/-- Connecting with settings that give clients alike gives reconcilers alike. -/
theorem connect {L : Likeness} {settings settings' : Settings}
    (hzone : settings.zone = settings'.zone)
    (h : ResultsAlike L.Clients (Client.ofSettings settings) (Client.ofSettings settings'))
    {log : LogSink (StateM Link)} (hlog : ∀ entry, Coupled L.Links Eq (log entry) (log entry)) :
    Coupled L.Links (ResultsAlike (Reconciler.Alike L.Links))
      (Cloudflare.connect Link.exchange log settings)
      (Cloudflare.connect Link.exchange log settings') := by
  rw [Cloudflare.connect, Cloudflare.connect, hzone]
  generalize Client.ofSettings settings = made at h ⊢
  generalize Client.ofSettings settings' = made' at h ⊢
  cases h with
  | error e => exact .pure (.error e)
  | @ok c c' hc =>
      dsimp only
      rw [L.dryRun hc]
      have hbind := (provider hc hlog).bind settings'.zone hlog
      cases c'.dryRun with
      | false => exact hbind
      | true => exact (hlog _).bind_eq fun _ => hbind

/-! ### Sessions -/

/-- The sessions have clients and reconcilers alike. -/
structure Sessions (s s' : Session) : Prop where
  client : Option.Rel L.Clients s.client s'.client
  reconciler : Option.Rel (Reconciler.Alike L.Links) s.reconciler s'.reconciler

/-- Sessions without a client are alike. -/
theorem sessions_start : L.Sessions {} {} := ⟨.none, .none⟩

/-- The steps make clients alike, and are otherwise the same. -/
inductive Steps : Step → Step → Prop
  | client {token token' base base' : String} {dryRun dryRun' : Bool} :
      ResultsAlike L.Clients (Client.create? token base dryRun)
        (Client.create? token' base' dryRun') →
      Steps (.client token base dryRun) (.client token' base' dryRun')
  | clientOfSettings {settings settings' : Settings} :
      ResultsAlike L.Clients (Client.ofSettings settings) (Client.ofSettings settings') →
      Steps (.clientOfSettings settings) (.clientOfSettings settings')
  | connect {settings settings' : Settings} : settings.zone = settings'.zone →
      ResultsAlike L.Clients (Client.ofSettings settings) (Client.ofSettings settings') →
      Steps (.connect settings) (.connect settings')
  | bind (zone : String) : Steps (.bind zone) (.bind zone)
  | call (call : Call) : Steps (.call call) (.call call)
  | providerName : Steps .providerName .providerName
  | update (name address : String) (ttl : Int32) :
      Steps (.update name address ttl) (.update name address ttl)

/-- The reports give the same result, and tell of links alike. -/
def Reports (r r' : Report) : Prop :=
  r.result = r'.result ∧ ∃ l l', L.Links l l' ∧ r.requests = l.requests ∧ r.log = l.log ∧
    r'.requests = l'.requests ∧ r'.log = l'.log

/-- The same result, with sessions alike after it. -/
abbrev Kept (p p' : Result × Session) : Prop :=
  p.1 = p'.1 ∧ L.Sessions p.2 p'.2

variable {L}

section

variable {s s' : Session} (hs : L.Sessions s s')

include hs

theorem keepClient {made made' : Except Error Client} (h : ResultsAlike L.Clients made made') :
    L.Kept (s.keepClient made) (s'.keepClient made') := by
  cases h with
  | error e => exact ⟨rfl, hs⟩
  | ok hc =>
      refine ⟨?_, .some hc, hs.reconciler⟩
      rw [Session.keepClient, Session.keepClient, L.inspect hc, L.dryRun hc]

theorem keepReconciler {made made' : Except Error LinkReconciler}
    (h : ResultsAlike (Reconciler.Alike L.Links) made made') :
    L.Kept (s.keepReconciler made) (s'.keepReconciler made') := by
  cases h with
  | error e => exact ⟨rfl, hs⟩
  | ok hr =>
      refine ⟨?_, hs.client, .some hr⟩
      rw [Session.keepReconciler, Session.keepReconciler, hr.zone, hr.inspect]

/-- **Steps alike are coupled**: the same result, and sessions alike after it. -/
theorem perform {x x' : Step} (hx : L.Steps x x') :
    Coupled L.Links L.Kept (s.perform x) (s'.perform x') := by
  obtain ⟨client, reconciler⟩ := s
  obtain ⟨client', reconciler'⟩ := s'
  obtain ⟨hclient, hreconciler⟩ := id hs
  -- the steps that make clients are given alike; the others do alike on what is alike already
  cases hx with
  | client h => exact .pure (keepClient hs h)
  | clientOfSettings h => exact .pure (keepClient hs h)
  | connect hzone h =>
      exact (connect hzone h L.write).bind fun _ _ hmade => .pure (keepReconciler hs hmade)
  | bind zone =>
      cases hclient with
      | none => exact .pure ⟨rfl, hs⟩
      | some hc =>
          exact ((provider hc L.write).bind zone L.write).bind fun _ _ hmade =>
            .pure (keepReconciler hs hmade)
  | call call =>
      cases hclient with
      | none => exact .pure ⟨rfl, hs⟩
      | some hc =>
          refine ((provider hc L.write).perform call).bind_eq fun answer => ?_
          cases answer with
          | error e => exact .pure ⟨rfl, hs⟩
          | ok a => exact .pure ⟨rfl, hs⟩
  | providerName =>
      cases hclient with
      | none => exact .pure ⟨rfl, hs⟩
      | some hc => exact .pure ⟨congrArg Result.name (provider hc L.write).name, hs⟩
  | update name address ttl =>
      cases hreconciler with
      | none => exact .pure ⟨rfl, hs⟩
      | some hr =>
          simp only [Session.perform]
          cases Address.parse? address with
          | none => exact .pure ⟨rfl, hs⟩
          | some a =>
              refine (hr.update name a ttl).bind_eq fun answer => ?_
              cases answer with
              | error e => exact .pure ⟨rfl, hs⟩
              | ok outcome => exact .pure ⟨rfl, hs⟩

theorem step {x x' : Step} (hx : L.Steps x x') (host : Option WebOrigin) (queue : List Canned) :
    L.Reports (s.step host x queue).1 (s'.step host x' queue).1 ∧
      L.Sessions (s.step host x queue).2 (s'.step host x' queue).2 := by
  obtain ⟨⟨hresult, hsessions⟩, hlinks⟩ := perform hs hx _ _ (L.fresh host queue)
  exact ⟨⟨hresult, _, _, hlinks, rfl, rfl, rfl, rfl⟩, hsessions⟩

end

/-- **Sessions alike report alike**, step by step. -/
theorem run {steps steps' : List (Step × List Canned)}
    (h : List.Forall₂ (fun p p' => L.Steps p.1 p'.1 ∧ p.2 = p'.2) steps steps')
    {s s' : Session} (hs : L.Sessions s s') (host : Option WebOrigin) :
    List.Forall₂ L.Reports (s.run host steps).1 (s'.run host steps').1 := by
  induction h generalizing s s' with
  | nil => exact .nil
  | @cons p p' _ _ hp _ ih =>
      obtain ⟨x, queue⟩ := p
      obtain ⟨x', queue'⟩ := p'
      obtain ⟨hx, rfl⟩ := hp
      obtain ⟨hreport, hafter⟩ := step hs hx host queue
      exact .cons hreport (ih hafter)

end Likeness

end ZoneKeeper.Cloudflare
