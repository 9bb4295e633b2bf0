/-
**The memory store behind the API.**

A server that passes on what the memory store answers makes the client a memory store at a
distance: what is written in the one form is read in the other, in both directions.  Updates over
the link then lead the same dialogues as updates on the store, up to the first call that cannot be
requested because its address is too long; the store has no such limit.

Main definitions:

* `ZoneKeeper.Answer.json` — an answer as it is written by a server;
* `ZoneKeeper.Cloudflare.replyTo` — the reply that passes on an answer;
* `ZoneKeeper.Cloudflare.Client.sendable` — the part of a dialogue that can be requested;
* `ZoneKeeper.Cloudflare.Carries` — a request carries a call;
* `ZoneKeeper.Cloudflare.Agrees` — a result over the link agrees with an episode.

Main results:

* `ZoneKeeper.Json.readText?_payloadText` — a written payload is read back;
* `ZoneKeeper.Cloudflare.Client.decode_replyTo` — **an answer that is passed on is the answer of the
  call**;
* `ZoneKeeper.Cloudflare.update_of_leads` — one update over the link;
* `ZoneKeeper.Cloudflare.providers_agree_through_wire` — **both providers come to the same
  outcomes**, with the same counts of calls and with payloads that read back;
* `ZoneKeeper.Cloudflare.long_name_agrees_only_in_memory` — a name that only the store can hold.
-/

import ZoneKeeper.Proofs.Cloudflare.Calls
import ZoneKeeper.Proofs.Memory.Accounting

set_option autoImplicit false

namespace ZoneKeeper

open ZoneKeeper.Http ZoneKeeper.Json ZoneKeeper.Text

variable {σ : Type}

/-! ### Written payloads -/

/-- **A written payload is read back.** -/
theorem Json.readText?_payloadText (p : Payload) :
    readText? Payload.ofJson? (Cloudflare.payloadText p) = some p := by
  rw [Cloudflare.payloadText, readText?_of_denotes p.denotes_json, p.ofJson?_value]

/-- What a call writes. -/
def Call.payload? : Call → Option Payload
  | .resolveZone _ => none
  | .listRecords _ _ _ => none
  | .createRecord _ payload => some payload
  | .updateRecord _ _ payload => some payload

/-! ### Written answers -/

/-- The written answer: a zone is listed with its id, records as they are. -/
def Answer.json : Answer → List Char
  | .zoneId id => writeArray [writeObject [("id", writeString id)]]
  | .records rs => writeArray (rs.map Record.json)
  | .record r => r.json

namespace Cloudflare

/-- The reply that passes on an answer.  Where there is none, the connection is closed. -/
def replyTo : Except Error Answer → Canned
  | .ok a => success a.json
  | .error _ => .drop

/-- A zone that is listed with its id is read back. -/
theorem yields_zone (id : String) :
    Yields (Value.list? ZoneEntry.ofJson?) (success (Answer.zoneId id).json) [⟨id⟩] := by
  have hmembers : List.Forall₂ (fun m v => m.1 = v.1 ∧ Denotes m.2 v.2)
      [("id", writeString id)] [("id", .string (some id))] :=
    .cons ⟨rfl, denotes_writeString id⟩ .nil
  have hentry : Denotes (writeObject [("id", writeString id)])
      (.object [(some "id", .string (some id))]) := denotes_writeObject hmembers
  exact yields_success (denotes_writeArray (.cons hentry .nil)) rfl

namespace Client

/-- **An answer that is passed on is the answer of the call**, whichever provider gave it. -/
theorem decode_replyTo {p : Provider (StateM σ)} {call : Call} {s s' : σ} {a : Answer}
    (h : p.perform call s = (.ok a, s')) (url : Url) :
    decode call (arrived url (replyTo (.ok a)).reply?) = .ok a := by
  have hanswer := congrArg Prod.fst h
  cases call with
  | resolveZone zone =>
      obtain ⟨id, -, rfl⟩ := map_eq_ok_iff.1 hanswer
      rw [decode, replyTo, received_arrived_eq_ok_iff.2 (yields_zone id)]
      rfl
  | listRecords zoneId type name =>
      obtain ⟨rs, -, rfl⟩ := map_eq_ok_iff.1 hanswer
      rw [decode, replyTo, Answer.json, received_arrived_eq_ok_iff.2 (lists_records rs)]
      exact congrArg (Except.map Answer.records) (Record.toRecords_asEntry rs)
  | createRecord zoneId payload =>
      obtain ⟨r, -, rfl⟩ := map_eq_ok_iff.1 hanswer
      rw [decode, replyTo, Answer.json, received_arrived_eq_ok_iff.2 (yields_record r)]
      exact congrArg (Except.map Answer.record) r.toRecord_asEntry
  | updateRecord zoneId recordId payload =>
      obtain ⟨r, -, rfl⟩ := map_eq_ok_iff.1 hanswer
      rw [decode, replyTo, Answer.json, received_arrived_eq_ok_iff.2 (yields_record r)]
      exact congrArg (Except.map Answer.record) r.toRecord_asEntry

/-- The part of a dialogue before the first call whose address is too long to be requested. -/
def sendable (c : Client) (d : Dialogue) : Dialogue :=
  d.takeWhile fun x => c.Fits (.ofCall x.1)

theorem fits_of_mem_sendable {c : Client} {d : Dialogue} :
    ∀ x ∈ c.sendable d, c.Fits (.ofCall x.1) := by
  intro x hx
  rw [sendable] at hx
  have hfits := List.mem_takeWhile_imp hx
  rwa [decide_eq_true_eq] at hfits

theorem sendable_eq_self {c : Client} {d : Dialogue} (h : ∀ x ∈ d, c.Fits (.ofCall x.1)) :
    c.sendable d = d :=
  List.takeWhile_eq_self_iff.2 fun x hx => decide_eq_true (h x hx)

/-- A dialogue can be requested as a whole, or there is a first call that cannot. -/
theorem sendable_cases (c : Client) (d : Dialogue) :
    (∀ x ∈ d, c.Fits (.ofCall x.1)) ∨ ∃ call answer rest,
      d = c.sendable d ++ (call, answer) :: rest ∧ ¬ c.Fits (.ofCall call) := by
  have hsplit : c.sendable d ++ d.dropWhile (fun x => c.Fits (.ofCall x.1)) = d :=
    List.takeWhile_append_dropWhile
  cases hrest : d.dropWhile fun x => c.Fits (.ofCall x.1) with
  | nil => exact .inl fun x hx => of_decide_eq_true (List.dropWhile_eq_nil_iff.1 hrest x hx)
  | cons x rest =>
      refine .inr ⟨x.1, x.2, rest, by rw [← hrest, hsplit], ?_⟩
      have hhead := List.head_dropWhile_not (fun x => c.Fits (.ofCall x.1)) (l := d)
        (by rw [hrest]; exact List.cons_ne_nil _ _)
      simpa [hrest] using hhead

end Client

/-! ### Requests that carry calls -/

/-- The request carries the call: it is the one for the call's draft, and its body reads back to
what the call writes. -/
structure Carries (c : Client) (call : Call) (r : Request) : Prop where
  request : ∃ url, c.address? (.ofCall call) = some url ∧ r = c.requestAt (.ofCall call) url
  body : readText? Payload.ofJson? r.body = call.payload?

theorem carries_requestAt {c : Client} {call : Call} {url : Url}
    (h : c.address? (.ofCall call) = some url) :
    Carries c call (c.requestAt (.ofCall call) url) := by
  refine ⟨⟨url, h, rfl⟩, ?_⟩
  cases call with
  | resolveZone zone | listRecords zoneId type name => rfl
  | createRecord zoneId payload | updateRecord zoneId recordId payload =>
      exact readText?_payloadText payload

/-- Requests that carry calls do what the calls do, in order. -/
theorem map_method_of_carries {c : Client} {calls : List Call} {requests : List Request}
    (h : List.Forall₂ (Carries c) calls requests) :
    requests.map Request.method = calls.map fun call => (Draft.ofCall call).method := by
  induction h with
  | nil => rfl
  | cons hcall _ ih =>
      obtain ⟨url, -, rfl⟩ := hcall.request
      rw [List.map_cons, List.map_cons, ih]
      rfl

/-- Where a method stands for an operation, there are as many requests with the one as calls of the
other. -/
theorem countP_method_of_carries {c : Client} {calls : List Call} {requests : List Request}
    (h : List.Forall₂ (Carries c) calls requests) {m : Method} {op : Operation}
    (hm : ∀ call ∈ calls, (Draft.ofCall call).method = m ↔ call.operation = op) :
    requests.countP (fun r => r.method = m) = calls.countP (fun call => call.operation = op) := by
  calc requests.countP (fun r => r.method = m)
      = (requests.map Request.method).countP (· = m) := by
        rw [List.countP_map]
        rfl
    _ = calls.countP fun call => (Draft.ofCall call).method = m := by
        rw [map_method_of_carries h, List.countP_map]
        rfl
    _ = calls.countP fun call => call.operation = op :=
        List.countP_congr fun call hcall => by simpa using hm call hcall

/-! ### One update -/

/-- The host has taken the calls of a dialogue, and `rest` is left of its queue. -/
structure Delivered (c : Client) (host : WebOrigin) (d : Dialogue) (rest : List Canned)
    (l l' : Link) : Prop where
  host_eq : l'.host = some host
  queue_eq : l'.queue = rest
  requests : ∃ requests, l'.requests = l.requests ++ requests ∧
    List.Forall₂ (fun x r => Carries c x.1 r) d requests

/-- What is delivered in two parts is delivered as a whole. -/
theorem Delivered.append {c : Client} {host : WebOrigin} {d d' : Dialogue}
    {queue rest : List Canned} {l l₁ l' : Link} (h : Delivered c host d queue l l₁)
    (h' : Delivered c host d' rest l₁ l') : Delivered c host (d ++ d') rest l l' := by
  obtain ⟨first, hfirst, hd⟩ := h.requests
  obtain ⟨more, hmore, hd'⟩ := h'.requests
  refine ⟨h'.host_eq, h'.queue_eq, first ++ more, by rw [hmore, hfirst, List.append_assoc], ?_⟩
  exact List.rel_append hd hd'

/-- The result over the link agrees with the episode: it is the same exactly if every call of the
episode can be requested, and if not, it is no outcome. -/
def Agrees (c : Client) (e : Episode) (result : Except Error Outcome) : Prop :=
  (result = e.result ↔ ∀ call ∈ e.calls, c.Fits (.ofCall call)) ∧
    ∀ o, result = .ok o → result = e.result

theorem forall_calls_iff {c : Client} {d : Dialogue} :
    (∀ call ∈ d.map Prod.fst, c.Fits (.ofCall call)) ↔ ∀ x ∈ d, c.Fits (.ofCall x.1) :=
  List.forall_mem_map

section

variable {c : Client} {host : WebOrigin} (hc : c.SendsTo host) (hlive : c.dryRun = false)
  {p : Provider (StateM σ)} {s s' : σ} {rest : List Canned}

include hc hlive

/-- The answers of another provider, passed on, are those of the client. -/
theorem answers_of_fits {d : Dialogue} (h : Answers p d s s') (hok : ∀ x ∈ d, ∃ a, x.2 = .ok a)
    (hfits : ∀ x ∈ d, c.Fits (.ofCall x.1)) {l : Link} (hl : l.host = some host)
    (hq : l.queue = d.map (fun x => replyTo x.2) ++ rest) :
    ∃ l', Answers (Session.providerOf c) d l l' ∧ Delivered c host d rest l l' := by
  induction h generalizing l with
  | nil => exact ⟨l, .nil, hl, hq, [], (List.append_nil _).symm, .nil⟩
  | @cons call answer d s s₁ s' hcall _ ih =>
      obtain ⟨⟨a, rfl⟩, hrest⟩ := List.forall_mem_cons.1 hok
      obtain ⟨hcallFits, hfits⟩ := List.forall_mem_cons.1 hfits
      obtain ⟨url, entries, hurl, hperform⟩ :=
        Client.perform_of_fits hc (.inl hlive) hl hcallFits
      -- the next reply is the one to this call
      rw [show l.next? = (replyTo (.ok a)).reply? by rw [Link.next?, hq]; rfl,
        Client.decode_replyTo hcall] at hperform
      have hone : Delivered c host [(call, .ok a)] (d.map (fun x => replyTo x.2) ++ rest) l
          { l.taken (c.requestAt (.ofCall call) url) with log := l.log ++ entries } :=
        ⟨hl, congrArg (List.drop 1) hq, [_], rfl, .cons (carries_requestAt hurl) .nil⟩
      obtain ⟨l', hanswers, hdelivered⟩ := ih hrest hfits hone.host_eq hone.queue_eq
      exact ⟨l', .cons hperform hanswers, hone.append hdelivered⟩

/-- **One update over the link**, with the answers of another provider passed on. -/
theorem update_of_leads {zone : Zone} {q : UpdateRequest} {d : Dialogue} {o : Outcome}
    (hd : Leads zone (RecordName.complete q.name) q.address (effectiveTtl q.ttl) d (.ok o))
    (ha : Answers p d s s') {l : Link} (hl : l.host = some host)
    (hq : l.queue = (c.sendable d).map (fun x => replyTo x.2) ++ rest) :
    ∃ result l', (reconcilerOf c zone).update q.name q.address q.ttl l = (result, l') ∧
      Delivered c host (c.sendable d) rest l l' ∧ Agrees c ⟨d, .ok o⟩ result := by
  rcases c.sendable_cases d with hfits | ⟨call, answer, more, hsplit, hlong⟩
  · -- every call is answered as before, so the update comes to the same outcome
    rw [Client.sendable_eq_self hfits] at hq ⊢
    obtain ⟨l', hanswers, hdelivered⟩ := answers_of_fits hc hlive ha hd.answered hfits hl hq
    refine ⟨_, _, update_of_course (hd.course hanswers),
      ⟨hdelivered.host_eq, hdelivered.queue_eq, hdelivered.requests⟩,
      iff_of_true rfl (forall_calls_iff.2 hfits), fun _ _ => rfl⟩
  · -- the first call that cannot be requested fails and ends the dialogue
    generalize hsent : c.sendable d = sent at hsplit hq ⊢
    have hfits : ∀ x ∈ sent, c.Fits (.ofCall x.1) := hsent ▸ Client.fits_of_mem_sendable
    subst hsplit
    obtain ⟨s₁, hasent, -⟩ := Answers.append_iff.1 ha
    obtain ⟨l₁, hanswers, hdelivered⟩ := answers_of_fits hc hlive hasent
      (fun x hx => hd.answered x (List.mem_append_left _ hx)) hfits hl hq
    obtain ⟨e, entries, hfailed⟩ :=
      Client.perform_of_not_fits hc (.inl hlive) (l := l₁) hlong
    have hcut := (hd.cut e).course (Answers.append_iff.2 ⟨l₁, hanswers, .cons hfailed .nil⟩)
    refine ⟨_, _, update_of_course hcut,
      ⟨hdelivered.host_eq, hdelivered.queue_eq, hdelivered.requests⟩, ?_, nofun⟩
    refine iff_of_false nofun fun hall => hlong (hall call ?_)
    rw [Episode.calls, List.map_append]
    exact List.mem_append_right _ List.mem_cons_self

end

/-! ### Many updates -/

/-- What of the episodes can be requested. -/
def Client.sent (c : Client) (episodes : List Episode) : Dialogue :=
  episodes.flatMap fun e => c.sendable e.dialogue

/-- Many updates over the link, with the answers of an unarmed store passed on. -/
theorem updateAll_of_episodes {c : Client} {host : WebOrigin} (hc : c.SendsTo host)
    (hlive : c.dryRun = false) (zones : Memory.ZoneTable) (zone : Zone)
    (requests : List UpdateRequest) {s : Memory.Store} (hs : s.failOn = none) {l : Link}
    (hl : l.host = some host) :
    let episodes := (Memory.provider zones).episodes zone requests s
    l.queue = (c.sent episodes).map (fun x => replyTo x.2) →
      ∃ results l', (reconcilerOf c zone).updateAll requests l = (results, l') ∧
        List.Forall₂ (Agrees c) episodes results ∧
        Delivered c host (c.sent episodes) [] l l' := by
  induction requests generalizing s l with
  | nil =>
      intro episodes hq
      exact ⟨[], l, rfl, .nil, hl, hq, [], (List.append_nil _).symm, .nil⟩
  | cons q qs ih =>
      obtain ⟨d, result, s₁, hepisodes, hd, ha, -⟩ :=
        (Memory.provider zones).exists_episode zone q qs s
      obtain ⟨⟨o, rfl⟩, hs₁⟩ :=
        (Memory.effect_of_course _ _ _ _ _ (hd.course ha)).exists_outcome hs
      rw [hepisodes]
      intro episodes hq
      rw [Client.sent, List.flatMap_cons, List.map_append] at hq
      obtain ⟨result, l₁, hupdate, hfirst, hagrees⟩ := update_of_leads hc hlive hd ha hl hq
      obtain ⟨results, l', hrest, hall, hmore⟩ := ih hs₁ hfirst.host_eq hfirst.queue_eq
      refine ⟨result :: results, l', ?_, .cons hagrees hall, hfirst.append hmore⟩
      rw [Reconciler.updateAll, StateM.bind_of_eq hupdate, StateM.bind_of_eq hrest]
      rfl

/-- Where every call can be requested, everything is. -/
theorem sent_eq_flatMap {c : Client} {episodes : List Episode}
    (h : ∀ call ∈ episodes.flatMap Episode.calls, c.Fits (.ofCall call)) :
    c.sent episodes = episodes.flatMap Episode.dialogue := by
  refine List.flatMap_congr fun e he => Client.sendable_eq_self (forall_calls_iff.1 ?_)
  exact fun call hcall => h call (List.mem_flatMap.2 ⟨e, he, hcall⟩)

/-- All results are the same exactly if every call can be requested. -/
theorem results_eq_iff {c : Client} {episodes : List Episode}
    {results : List (Except Error Outcome)} (h : List.Forall₂ (Agrees c) episodes results) :
    results = episodes.map Episode.result ↔
      ∀ call ∈ episodes.flatMap Episode.calls, c.Fits (.ofCall call) := by
  induction h with
  | nil => exact iff_of_true rfl (List.forall_mem_nil _)
  | cons hagrees _ ih =>
      rw [List.map_cons, List.cons.injEq, ih, hagrees.1, List.flatMap_cons, List.forall_mem_append]

/-- Where the host has received the calls that the store has answered, and no zone was looked up,
the store counts as many calls of an operation as the host received requests of its method. -/
theorem counts_of_carries {zones : Memory.ZoneTable} {d : Dialogue} {s s' : Memory.Store}
    (ha : Answers (Memory.provider zones) d s s') {c : Client} {requests : List Request}
    (h : List.Forall₂ (Carries c) (d.map Prod.fst) requests)
    (hplaced : ∀ call ∈ d.map Prod.fst, call.place?.isSome = true) :
    s'.counts.list = s.counts.list + requests.countP (fun r => r.method = .get) ∧
      s'.counts.create = s.counts.create + requests.countP (fun r => r.method = .post) ∧
      s'.counts.update = s.counts.update + requests.countP (fun r => r.method = .patch) := by
  have hcount : ∀ (m : Method) (op : Operation),
      (∀ call : Call, call.place?.isSome = true →
        ((Draft.ofCall call).method = m ↔ call.operation = op)) →
      s'.counts.of op = s.counts.of op + requests.countP (fun r => r.method = m) := by
    intro m op hm
    rw [Memory.counts_of_answers ha op,
      countP_method_of_carries h fun call hcall => hm call (hplaced call hcall)]
  refine ⟨hcount .get .fetch ?_, hcount .post .create ?_, hcount .patch .update ?_⟩
  -- only the lookup of a zone reads and lists no records, and it has no place
  all_goals
    intro call hplace
    cases call with
    | resolveZone zone => cases hplace
    | listRecords _ _ _ | createRecord _ _ | updateRecord _ _ _ =>
        simp [Draft.ofCall, Draft.records, Draft.create, Draft.update, Call.operation]

/-- **Both providers come to the same outcomes.**  Let a live client send to the host of its base,
let the store be unarmed, and let the host pass on what the store answers to the calls of the same
updates.  On the store every update has an outcome.  Over the link an update comes to that outcome
exactly if each of its calls has an address that is short enough to be requested; otherwise it
fails at the first call that has not.  The host receives a request for every call before that one,
in order, with a body that reads back to what the call writes.  So the results are all the same
exactly if every call can be requested, and then the host receives as many requests of each method
as the store counts calls of the operation. -/
theorem providers_agree_through_wire (c : Client) (host : WebOrigin) (zones : Memory.ZoneTable)
    (zone : Zone) (s : Memory.Store) (requests : List UpdateRequest) (hc : c.SendsTo host)
    (hlive : c.dryRun = false) (hs : s.failOn = none) :
    let memory := Memory.provider zones
    let episodes := memory.episodes zone requests s
    let sent := c.sent episodes
    let inMemory := (Reconciler.observed memory zone).updateAll requests ⟨s, [], []⟩
    let overLink := (reconcilerOf c zone).updateAll requests
      { host := some host, queue := sent.map fun x => replyTo x.2 }
    (inMemory.1 = episodes.map Episode.result ∧
      inMemory.2.calls = episodes.flatMap Episode.calls ∧
      Answers memory (episodes.flatMap Episode.dialogue) s inMemory.2.state ∧
      ∀ e ∈ episodes, ∃ o, e.result = .ok o) ∧
    List.Forall₂ (Agrees c) episodes overLink.1 ∧
    List.Forall₂ (fun x r => Carries c x.1 r) sent overLink.2.requests ∧
    (overLink.1 = inMemory.1 ↔ ∀ call ∈ inMemory.2.calls, c.Fits (.ofCall call)) ∧
    ((∀ call ∈ inMemory.2.calls, c.Fits (.ofCall call)) →
      List.Forall₂ (Carries c) inMemory.2.calls overLink.2.requests ∧
      inMemory.2.state.counts.list =
        s.counts.list + overLink.2.requests.countP (fun r => r.method = .get) ∧
      inMemory.2.state.counts.create =
        s.counts.create + overLink.2.requests.countP (fun r => r.method = .post) ∧
      inMemory.2.state.counts.update =
        s.counts.update + overLink.2.requests.countP (fun r => r.method = .patch)) := by
  intro memory episodes sent inMemory overLink
  obtain ⟨s', log', hmemory, hanswers⟩ := memory.updateAll_eq_episodes zone requests s [] []
  have hresults : inMemory.1 = episodes.map Episode.result := congrArg Prod.fst hmemory
  have hcalls : inMemory.2.calls = episodes.flatMap Episode.calls :=
    congrArg (fun run => run.2.calls) hmemory
  have hstate : inMemory.2.state = s' := congrArg (fun run => run.2.state) hmemory
  obtain ⟨results, l', hrun, hagree, hdelivered⟩ :=
    updateAll_of_episodes hc hlive zones zone requests hs (l := ⟨some host, _, [], []⟩) rfl rfl
  obtain ⟨received, hreceived, hcarried⟩ := hdelivered.requests
  have hlink : overLink = (results, l') := hrun
  have hrequests : overLink.2.requests = received := (congrArg (·.2.requests) hlink).trans hreceived
  rw [hstate, hcalls, hresults, hrequests, show overLink.1 = results from congrArg Prod.fst hlink]
  refine ⟨⟨rfl, rfl, hanswers, Memory.exists_outcome_of_mem_episodes zones zone hs⟩, hagree,
    hcarried, results_eq_iff hagree, fun hfits => ?_⟩
  have hdialogue : (episodes.flatMap Episode.dialogue).map Prod.fst =
      episodes.flatMap Episode.calls := List.map_flatMap
  have hall : List.Forall₂ (Carries c) (episodes.flatMap Episode.calls) received := by
    rw [← hdialogue, List.forall₂_map_left_iff, ← sent_eq_flatMap hfits]
    exact hcarried
  refine ⟨hall, counts_of_carries hanswers (hdialogue ▸ hall) ?_⟩
  intro call hcall
  rcases mem_calls_updateAll memory zone requests s [] [] call (hcalls ▸ hdialogue ▸ hcall) with
    h | ⟨q, -, hplace, -⟩
  · exact absurd h List.not_mem_nil
  · rw [hplace]
    rfl

/-- A record is made and replaced, in memory and over the link. -/
theorem created_and_updated_on_both :
    let c : Client := ⟨"secret", "http://127.0.0.1:8080", false⟩
    let host : WebOrigin := "127.0.0.1:8080".toList
    let zone : Zone := ⟨"zone-123", "example.com"⟩
    let requests : List UpdateRequest :=
      [⟨"www.example.com", ⟨1, 2, 3, 4⟩, 300⟩, ⟨"www.example.com", ⟨5, 6, 7, 8⟩, 0⟩]
    let s : Memory.Store := {}
    let memory := Memory.provider [("example.com", "zone-123")]
    let queue := (c.sent (memory.episodes zone requests s)).map fun x => replyTo x.2
    let overLink := (reconcilerOf c zone).updateAll requests { host := some host, queue }
    c.SendsTo host ∧ c.dryRun = false ∧ s.failOn = none ∧
      overLink.1.map Except.toOption =
        [some (.created "www.example.com" "rec-1" ⟨1, 2, 3, 4⟩ 300),
          some (.updated "www.example.com" "rec-1" "1.2.3.4" ⟨5, 6, 7, 8⟩ 60)] ∧
      overLink.2.requests.map Request.method = [.get, .post, .get, .patch] := by
  intro c host zone requests s memory queue overLink
  have hsends : c.SendsTo host := ⟨by decide +kernel, by decide +kernel⟩
  let inMemory := (Reconciler.observed memory zone).updateAll requests ⟨s, [], []⟩
  have houtcomes : inMemory.1.map Except.toOption =
      [some (.created "www.example.com" "rec-1" ⟨1, 2, 3, 4⟩ 300),
        some (.updated "www.example.com" "rec-1" "1.2.3.4" ⟨5, 6, 7, 8⟩ 60)] := by
    decide +kernel
  have hmethods : (inMemory.2.calls.map fun call => (Draft.ofCall call).method) =
      [.get, .post, .get, .patch] := by
    decide +kernel
  have hfits : ∀ call ∈ inMemory.2.calls, c.Fits (.ofCall call) := by decide +kernel
  obtain ⟨-, -, -, hresults, hcarried⟩ :=
    providers_agree_through_wire c host [("example.com", "zone-123")] zone s requests hsends rfl rfl
  obtain ⟨hrequests, -⟩ := hcarried hfits
  have hrun : overLink = (reconcilerOf c zone).updateAll requests
      { host := some host, queue := (c.sent (memory.episodes zone requests s)).map fun x =>
        replyTo x.2 } := rfl
  rw [hrun]
  exact ⟨hsends, rfl, rfl, (congrArg (List.map Except.toOption) (hresults.2 hfits)).trans houtcomes,
    (map_method_of_carries hrequests).trans hmethods⟩

/-- A name that ends in a label below the zone is complete and in the zone, whatever it begins
with. -/
theorem name_below_example (front : List Char) :
    ∃ name, String.ofList (front ++ ".example.com".toList) = name ∧
      RecordName.complete name = name ∧ front.length < name.toList.length ∧
      "example.com".toList <:+ name.toList := by
  have hchars : (String.ofList (front ++ ".example.com".toList)).toList =
      front ++ ".example.com".toList := String.toList_ofList
  refine ⟨_, rfl, ?_, ?_, ?_⟩
  · have hshort : ¬ RecordName.isShort (String.ofList (front ++ ".example.com".toList)) = true := by
      rw [RecordName.isShort, hchars, List.isSuffixOf_iff_suffix]
      intro h
      exact absurd (List.suffix_of_suffix_length_le h (List.suffix_append _ _) (by decide))
        (by decide)
    rw [RecordName.complete, if_neg hshort]
  · rw [hchars, List.length_append]
    exact Nat.lt_add_of_pos_right (by decide)
  · rw [hchars]
    exact (by decide : "example.com".toList <:+ ".example.com".toList).trans
      (List.suffix_append _ _)

/-- **A name that only the store can hold.**  In memory its record is made; over the link nothing is
sent, whatever the replies would be, and the update fails. -/
theorem long_name_agrees_only_in_memory :
    let c : Client := ⟨"secret", "http://127.0.0.1:8080", false⟩
    let host : WebOrigin := "127.0.0.1:8080".toList
    let zone : Zone := ⟨"zone-123", "example.com"⟩
    let name := String.ofList (List.replicate 65535 'a' ++ ".example.com".toList)
    let memory := Memory.provider [("example.com", "zone-123")]
    let inMemory :=
      (Reconciler.observed memory zone).update name ⟨1, 2, 3, 4⟩ 300 ⟨{}, [], []⟩
    c.SendsTo host ∧ inMemory.1 = .ok (.created name "rec-1" ⟨1, 2, 3, 4⟩ 300) ∧
      inMemory.2.state.counts = { list := 1, create := 1 } ∧
      ∀ queue,
        let overLink :=
          (reconcilerOf c zone).update name ⟨1, 2, 3, 4⟩ 300 { host := some host, queue }
        (∃ e, overLink.1 = .error e) ∧ overLink.2.requests = [] := by
  intro c host zone name memory
  have hsends : c.SendsTo host := ⟨by decide +kernel, by decide +kernel⟩
  obtain ⟨long, hname, hcomplete, hlength, hz⟩ := name_below_example (List.replicate 65535 'a')
  rw [List.length_replicate] at hlength
  -- from here on only these facts about the name count
  rw [show name = long from hname]
  rw [← hcomplete] at hz hlength
  intro inMemory
  have hcourse : Course memory zone (RecordName.complete long) ⟨1, 2, 3, 4⟩ (effectiveTtl 300)
      {} _ _ _ := .created hz rfl rfl
  have hmade : inMemory = _ := hcourse.update_eq [] []
  rw [hmade, hcomplete]
  refine ⟨hsends, ?_, rfl, fun queue => ?_⟩
  · have hid : Memory.recordId (({} : Memory.Store).issued + 1) = "rec-1" := by decide +kernel
    rw [show effectiveTtl 300 = 300 by decide, hid]
    rfl
  · have hlong : ¬ c.Fits (.records zone.id .a (RecordName.complete long)) :=
      not_fits_of_long_name hsends ((Nat.lt_succ_self 65534).trans hlength)
    obtain ⟨answer, l, hlookup, -, ⟨-, ⟨e, rfl⟩, hnone⟩ | ⟨hfits, -⟩⟩ :=
      listRecords_cases hsends zone.id (RecordName.complete long) queue
    · rw [update_of_course (.lookupFailed hz hlookup)]
      exact ⟨⟨_, rfl⟩, hnone⟩
    · exact absurd hfits hlong

end Cloudflare

end ZoneKeeper
