/-
**Sending a draft over a link.**

A client's request over a link either stays at home, with the link as it was, or is taken by the
host together with the reply that is next.  Which of the two happens depends on the client, the
draft and the link's host, never on the reply.  Where the base is an address of the host and the
token may stand in a header, only the length of the address is left to depend on.

Main definitions:

* `ZoneKeeper.Http.Link.taken` — the link after its host has taken a request;
* `ZoneKeeper.Http.Url.LeadsTo` — an address leads to a host, by plain HTTP or over TLS;
* `ZoneKeeper.Cloudflare.Client.transmit` — what comes of sending a draft;
* `ZoneKeeper.Cloudflare.Client.origin?` — the host that the base leads to;
* `ZoneKeeper.Cloudflare.Client.Directs` — a draft is directed to a host;
* `ZoneKeeper.Cloudflare.Client.Fits` — the address of a draft is short enough to be requested.

Main results:

* `ZoneKeeper.Cloudflare.Client.send_eq` — sending and classifying;
* `ZoneKeeper.Cloudflare.Client.transmit_cases` — a request is taken or stays at home;
* `ZoneKeeper.Cloudflare.Client.SendsTo.directs` — where the base leads to a host, every draft is
  directed there;
* `ZoneKeeper.Cloudflare.Client.Directs.transmit_of_fits`,
  `ZoneKeeper.Cloudflare.Client.Directs.transmit_of_not_fits` — **a request directed to a host is
  taken there exactly if its address fits**;
* `ZoneKeeper.Cloudflare.Client.createRecord_of_fits`,
  `ZoneKeeper.Cloudflare.Client.updateRecord_of_fits`,
  `ZoneKeeper.Cloudflare.Client.updateRecord_of_not_fits` — what a write of a live client comes to.
-/

import ZoneKeeper.Cloudflare.Session
import ZoneKeeper.Proofs.Course
import ZoneKeeper.Proofs.Http.BaseAddress

set_option autoImplicit false

namespace ZoneKeeper

open ZoneKeeper.Http ZoneKeeper.Text

namespace Http.Link

/-- The reply that is next, if it comes. -/
def next? (l : Link) : Option Reply :=
  (l.queue.headD .exhausted).reply?

/-- The link after its host has taken a request. -/
def taken (l : Link) (request : Request) : Link :=
  { l with queue := l.queue.drop 1, requests := l.requests ++ [request] }

@[simp] theorem taken_host (l : Link) (request : Request) : (l.taken request).host = l.host := rfl

@[simp] theorem taken_requests (l : Link) (request : Request) :
    (l.taken request).requests = l.requests ++ [request] := rfl

@[simp] theorem taken_log (l : Link) (request : Request) : (l.taken request).log = l.log := rfl

/-- A request that was taken is among the requests. -/
theorem requests_taken_ne (l : Link) (request : Request) :
    (l.taken request).requests ≠ l.requests :=
  fun heq => List.cons_ne_nil _ _ (List.append_right_eq_self.1 heq)

theorem exchange_of_reaches {l : Link} {url : Url} (h : l.reaches url = true) (request : Request) :
    exchange url request l = (l.next?, l.taken request) := by
  rw [exchange, if_pos h]
  rfl

theorem exchange_of_not_reaches {l : Link} {url : Url} (h : ¬ l.reaches url = true)
    (request : Request) : exchange url request l = (none, l) := by
  rw [exchange, if_neg h]

end Http.Link

namespace Http.Url

/-- Only the scheme and the place of an address decide where a request for it is taken. -/
theorem origin?_congr {u v : Url} (hscheme : v.scheme = u.scheme)
    (hplace : v.authority.map Authority.place = u.authority.map Authority.place) :
    v.origin? = u.origin? := by
  rw [origin?, origin?, isHttp, isHttp, hscheme, hplace]

/-- A request is taken somewhere only for an address of HTTP that has a place. -/
theorem of_origin?_eq_some {u : Url} {host : WebOrigin} (h : u.origin? = some host) :
    u.isHttp = true ∧ u.authority.map Authority.place = some host.place := by
  rw [origin?] at h
  split at h
  · next hhttp =>
      obtain ⟨place, hplace, rfl⟩ := Option.map_eq_some_iff.1 h
      exact ⟨hhttp, hplace⟩
  · cases h

/-- The schemes of HTTP are schemes of the web. -/
theorem isWeb_of_isHttp {u : Url} (h : u.isHttp = true) : isWeb u.scheme = true := by
  rw [isHttp, Bool.or_eq_true, decide_eq_true_eq, decide_eq_true_eq] at h
  rcases h with h | h
  · rw [h]
    decide
  · rw [h]
    decide

/-- The address leads to the host, and the name of its host may stand in a request. -/
structure LeadsTo (u : Url) (host : WebOrigin) : Prop where
  origin : u.origin? = some host
  standing : (u.authority.map fun a => a.host.chars.all standsInRequestedHost) = some true

/-- Only the scheme, the host and the place of an address decide where it leads. -/
theorem LeadsTo.congr {u v : Url} {host : WebOrigin} (h : LeadsTo u host)
    (hscheme : v.scheme = u.scheme)
    (hhost : v.authority.map Authority.host = u.authority.map Authority.host)
    (hplace : v.authority.map Authority.place = u.authority.map Authority.place) :
    LeadsTo v host := by
  have hmap := Option.map_map (fun h : Host => h.chars.all standsInRequestedHost) Authority.host
  refine ⟨(origin?_congr hscheme hplace).trans h.origin, ?_⟩
  refine ((hmap _).symm.trans ?_).trans h.standing
  rw [hhost]
  exact hmap _

/-- The address of a request leads where the draft's own address does. -/
theorem leadsTo_withQuery {u : Url} {pairs : List (String × String)} {host : WebOrigin} :
    LeadsTo (u.withoutCredentials.withQuery pairs) host ↔ LeadsTo u host := by
  have hscheme : (u.withoutCredentials.withQuery pairs).scheme = u.scheme := by simp
  have hhost : (u.withoutCredentials.withQuery pairs).authority.map Authority.host =
      u.authority.map Authority.host := by simp
  have hplace : (u.withoutCredentials.withQuery pairs).authority.map Authority.place =
      u.authority.map Authority.place := by simp
  exact ⟨fun h => h.congr hscheme.symm hhost.symm hplace.symm,
    fun h => h.congr hscheme hhost hplace⟩

theorem LeadsTo.reaches {u : Url} {host : WebOrigin} (h : LeadsTo u host) {l : Link}
    (hl : l.host = some host) : l.reaches u = true := by
  simp [Link.reaches, hl, h.origin]

theorem LeadsTo.isHttp {u : Url} {host : WebOrigin} (h : LeadsTo u host) : u.isHttp = true :=
  (of_origin?_eq_some h.origin).1

theorem LeadsTo.isWeb {u : Url} {host : WebOrigin} (h : LeadsTo u host) :
    isWeb u.scheme = true :=
  isWeb_of_isHttp h.isHttp

theorem LeadsTo.canBeRequested_iff {u : Url} {host : WebOrigin} (h : LeadsTo u host) :
    u.canBeRequested = true ↔ u.chars.length ≤ lengthLimit := by
  rw [Url.canBeRequested, h.standing]
  simp

end Http.Url

namespace Cloudflare

/-- The draft's path begins with a slash. -/
def Draft.IsRooted (d : Draft) : Prop :=
  ∃ more, d.path.toList = '/' :: more

namespace Client

/-! ### The request for a draft -/

/-- The address of a draft, if the base and the path make one. -/
def address? (c : Client) (d : Draft) : Option Url :=
  (Url.parse? (c.base ++ d.path).toList).map fun bare => bare.withoutCredentials.withQuery d.query

/-- The request for a draft at an address. -/
def requestAt (c : Client) (d : Draft) (url : Url) : Request where
  method := d.method
  target := url.target
  authorization := "Bearer " ++ c.token
  contentType := d.payload.map fun _ => "application/json"
  body := (d.payload.map payloadText).getD ""

theorem prepare_of_parse? {c : Client} {d : Draft} {bare : Url}
    (h : Url.parse? (c.base ++ d.path).toList = some bare) (hhost : bare.hasHost = true)
    (htoken : c.token.toList.all standsInHeader = true) :
    c.prepare d =
      let url := bare.withoutCredentials.withQuery d.query
      if url.isHttp && url.canBeRequested then .ok (url, c.requestAt d url)
      else .error (.refused url.text) := by
  simp only [prepare, h, hhost, htoken, Bool.not_true, Bool.false_eq_true, if_false, requestAt]
  cases (bare.withoutCredentials.withQuery d.query).isHttp <;>
    cases (bare.withoutCredentials.withQuery d.query).canBeRequested <;> rfl

/-- A request that can be made is the one for the draft's address, and the token may stand in a
header. -/
theorem of_prepare_eq_ok {c : Client} {d : Draft} {url : Url} {request : Request}
    (h : c.prepare d = .ok (url, request)) :
    c.address? d = some url ∧ request = c.requestAt d url ∧
      c.token.toList.all standsInHeader = true ∧ url.isHttp = true ∧
      url.canBeRequested = true := by
  cases hp : Url.parse? (c.base ++ d.path).toList with
  | none =>
      rw [prepare, hp] at h
      cases h
  | some bare =>
      by_cases hhost : bare.hasHost = true
      · by_cases htoken : c.token.toList.all standsInHeader = true
        · rw [prepare_of_parse? hp hhost htoken] at h
          dsimp only at h
          split at h
          · next hok =>
              cases h
              rw [Bool.and_eq_true] at hok
              exact ⟨by rw [address?, hp]; rfl, rfl, htoken, hok.1, hok.2⟩
          · cases h
        · simp only [prepare, hp, hhost, htoken, Bool.not_true, Bool.not_false] at h
          cases h
      · simp only [prepare, hp, hhost, Bool.not_false] at h
        cases h

/-! ### Transmission -/

/-- What comes back from an address. -/
def arrived (url : Url) : Option Reply → Except SendFault Reply
  | none => .error (.lost url.text)
  | some reply => .ok reply

/-- What comes of sending a draft over a link: a reply or a fault, and the link after it. -/
def transmit (c : Client) (d : Draft) (l : Link) : Except SendFault Reply × Link :=
  match c.prepare d with
  | .error fault => (.error fault, l)
  | .ok (url, request) =>
      let (reply?, after) := Link.exchange url request l
      (arrived url reply?, after)

/-- What a transmission means to the one who sent the draft. -/
def received {α : Type} (purpose : Purpose) (read : Json.Value → Option α) :
    Except SendFault Reply → Except Error α
  | .error fault => .error (sendError purpose fault)
  | .ok reply => classify purpose read reply

/-- Sending a draft is transmitting it and taking the reply for what it means. -/
theorem send_eq {α : Type} (c : Client) (purpose : Purpose) (read : Json.Value → Option α)
    (d : Draft) (l : Link) :
    c.send Link.exchange purpose read d l =
      (received purpose read (c.transmit d l).1, (c.transmit d l).2) := by
  rw [send, transmit]
  cases c.prepare d with
  | error fault => rfl
  | ok p =>
      obtain ⟨url, request⟩ := p
      dsimp only
      rcases he : Link.exchange url request l with ⟨_ | reply, after⟩
      · rw [StateM.bind_of_eq he]
        rfl
      · rw [StateM.bind_of_eq he]
        rfl

/-- A request stays at home, or it is taken and the next reply comes back. -/
theorem transmit_cases (c : Client) (d : Draft) (l : Link) :
    (∃ fault, c.transmit d l = (.error fault, l)) ∨
      ∃ url, c.prepare d = .ok (url, c.requestAt d url) ∧ l.reaches url = true ∧
        c.transmit d l = (arrived url l.next?, l.taken (c.requestAt d url)) := by
  rw [transmit]
  cases hp : c.prepare d with
  | error fault => exact .inl ⟨fault, rfl⟩
  | ok p =>
      obtain ⟨url, request⟩ := p
      obtain rfl := (of_prepare_eq_ok hp).2.1
      by_cases hreach : l.reaches url = true
      · refine .inr ⟨url, rfl, hreach, ?_⟩
        dsimp only
        rw [Link.exchange_of_reaches hreach]
      · refine .inl ⟨.lost url.text, ?_⟩
        dsimp only
        rw [Link.exchange_of_not_reaches hreach]
        rfl

/-! ### The host of the base -/

/-- The host that the base leads to, if the base, with the slash that follows it, is an absolute
address of HTTP and the name of its host may stand in a request. -/
def origin? (c : Client) : Option WebOrigin :=
  (Url.parse? (c.base ++ "/").toList).bind fun u =>
    if (u.authority.map fun a => a.host.chars.all Url.standsInRequestedHost) = some true then
      u.origin?
    else none

/-- The address of a draft is short enough to be requested. -/
def Fits (c : Client) (d : Draft) : Prop :=
  ∀ url ∈ c.address? d, url.chars.length ≤ Url.lengthLimit

instance (c : Client) (d : Draft) : Decidable (c.Fits d) :=
  match h : c.address? d with
  | none => isTrue fun url hurl => by rw [h] at hurl; cases hurl
  | some url =>
      decidable_of_iff (url.chars.length ≤ Url.lengthLimit)
        ⟨fun hle u hu => by rw [h] at hu; cases hu; exact hle, fun hf => hf url h⟩

/-- The client sends to the link's host: the token may stand in a header, and the base leads
there. -/
structure SendsTo (c : Client) (host : WebOrigin) : Prop where
  token : c.token.toList.all standsInHeader = true
  origin : c.origin? = some host

/-- The draft is directed to the host: its address leads there, and can be requested exactly if it
is short enough. -/
def Directs (c : Client) (d : Draft) (host : WebOrigin) : Prop :=
  ∃ url, c.address? d = some url ∧ (∀ l : Link, l.host = some host → l.reaches url = true) ∧
    c.prepare d =
      if url.chars.length ≤ Url.lengthLimit then .ok (url, c.requestAt d url)
      else .error (.refused url.text)

theorem directs_of_parse? {c : Client} {d : Draft} {bare : Url} {host : WebOrigin}
    (htoken : c.token.toList.all standsInHeader = true)
    (hbare : Url.parse? (c.base ++ d.path).toList = some bare) (h : bare.LeadsTo host) :
    c.Directs d host := by
  have hlead : (bare.withoutCredentials.withQuery d.query).LeadsTo host := Url.leadsTo_withQuery.2 h
  have hhost := Url.hasHost_of_parse? hbare h.isWeb
  refine ⟨_, by rw [address?, hbare]; rfl, fun l hl => hlead.reaches hl, ?_⟩
  rw [prepare_of_parse? hbare hhost htoken]
  by_cases hfits : (bare.withoutCredentials.withQuery d.query).chars.length ≤ Url.lengthLimit
  · simp only [hlead.isHttp, hlead.canBeRequested_iff.2 hfits, Bool.and_self, if_true, if_pos hfits]
  · have hno : (bare.withoutCredentials.withQuery d.query).canBeRequested = false :=
      Bool.eq_false_iff.2 fun h => hfits (hlead.canBeRequested_iff.1 h)
    simp only [hno, Bool.and_false, Bool.false_eq_true, if_false, if_neg hfits]

/-- The host of a link that an address reaches is where the address leads. -/
theorem leadsTo_of_prepare {c : Client} {d : Draft} {url : Url} {request : Request} {l : Link}
    (h : c.prepare d = .ok (url, request)) (hreach : l.reaches url = true) :
    ∃ host bare, l.host = some host ∧ Url.parse? (c.base ++ d.path).toList = some bare ∧
      bare.LeadsTo host := by
  obtain ⟨haddress, -, -, -, hrequest⟩ := of_prepare_eq_ok h
  obtain ⟨bare, hbare, hurl⟩ := Option.map_eq_some_iff.1 haddress
  rw [Link.reaches, Bool.and_eq_true, beq_iff_eq] at hreach
  obtain ⟨hsome, horigin⟩ := hreach
  obtain ⟨host, hhost⟩ := Option.isSome_iff_exists.1 hsome
  rw [hhost] at horigin
  obtain ⟨a, ha, -⟩ := Option.map_eq_some_iff.1 (Url.of_origin?_eq_some horigin).2
  rw [Url.canBeRequested, ha, Option.map_some, Option.getD_some, Bool.and_eq_true] at hrequest
  have hlead : url.LeadsTo host := ⟨horigin, by rw [ha, Option.map_some, hrequest.2]⟩
  exact ⟨host, bare, hhost, hbare, Url.leadsTo_withQuery.1 (hurl ▸ hlead)⟩

/-- The base, with the slash that follows it, leads to the host that the client sends to. -/
theorem SendsTo.leadsTo {c : Client} {host : WebOrigin} (hc : c.SendsTo host) :
    ∃ u, Url.parse? (c.base ++ "/").toList = some u ∧ u.LeadsTo host := by
  obtain ⟨u, hu, hif⟩ := Option.bind_eq_some_iff.1 hc.origin
  split at hif
  · next hstanding => exact ⟨u, hu, hif, hstanding⟩
  · cases hif

/-- Where the base leads to a host, every draft is directed there. -/
theorem SendsTo.directs {c : Client} {host : WebOrigin} (hc : c.SendsTo host) {d : Draft}
    (hd : d.IsRooted) : c.Directs d host := by
  obtain ⟨u, hu, hlead⟩ := hc.leadsTo
  obtain ⟨more, hpath⟩ := hd
  rw [String.toList_append] at hu
  -- the base and the draft's address share what stands before the slash
  obtain ⟨bare, hbare, hscheme, hauthority⟩ := Url.parse?_append_slash hu hlead.isWeb more
  have hparse : Url.parse? (c.base ++ d.path).toList = some bare := by
    rw [String.toList_append, hpath, hbare]
  exact directs_of_parse? hc.token hparse
    (hlead.congr hscheme (by rw [hauthority]) (by rw [hauthority]))

/-- The public base leads to its host by HTTP over TLS. -/
example : (Client.mk "secret" publicBase false).SendsTo ⟨true, "api.cloudflare.com".toList⟩ :=
  ⟨by decide, by decide +kernel⟩

section

variable {c : Client} {host : WebOrigin} {d : Draft} {l : Link}

/-- At the host a request whose address fits is taken. -/
theorem Directs.transmit_of_fits (h : c.Directs d host) (hl : l.host = some host)
    (hf : c.Fits d) :
    ∃ url, c.address? d = some url ∧
      c.transmit d l = (arrived url l.next?, l.taken (c.requestAt d url)) := by
  obtain ⟨url, hurl, hreach, hprepare⟩ := h
  rw [if_pos (hf url hurl)] at hprepare
  refine ⟨url, hurl, ?_⟩
  rw [transmit, hprepare]
  dsimp only
  rw [Link.exchange_of_reaches (hreach l hl)]

/-- A request whose address does not fit stays at home. -/
theorem Directs.transmit_of_not_fits (h : c.Directs d host) (hf : ¬ c.Fits d) :
    ∃ url, c.address? d = some url ∧ c.transmit d l = (.error (.refused url.text), l) := by
  obtain ⟨url, hurl, -, hprepare⟩ := h
  have hlong : ¬ url.chars.length ≤ Url.lengthLimit := fun hle => hf fun u hu => by
    rw [hurl] at hu
    cases hu
    exact hle
  rw [if_neg hlong] at hprepare
  exact ⟨url, hurl, by rw [transmit, hprepare]⟩

end

/-! ### The operations -/

section

variable (c : Client) (l : Link)

/-- The link after the adapter has logged a text. -/
def noted (level : Level) (text : String) : Link :=
  { l with log := l.log ++ [adapterEntry level text] }

theorem write_eq (level : Level) (text : String) :
    Link.write (adapterEntry level text) l = ((), noted l level text) := rfl

theorem resolveZone_eq (zone : String) :
    c.resolveZone Link.exchange Link.write zone l =
      let sent := c.transmit (.zones zone)
        (noted l .debug ("Looking up zone ID for domain: " ++ zone))
      match received .zoneLookup (Json.Value.list? ZoneEntry.ofJson?) sent.1 with
      | .error e => (.error e, sent.2)
      | .ok [] => (.error (.notFound ("Zone not found: " ++ zone)), sent.2)
      | .ok (entry :: _) =>
          (.ok entry.id, noted sent.2 .debug ("Found zone ID: " ++ entry.id)) := by
  rw [resolveZone, StateM.bind_of_eq (write_eq l .debug _),
    StateM.bind_of_eq (send_eq c .zoneLookup _ (.zones zone) _)]
  dsimp only
  cases received .zoneLookup (Json.Value.list? ZoneEntry.ofJson?)
      (c.transmit (.zones zone) (noted l .debug ("Looking up zone ID for domain: " ++ zone))).1 with
  | error e => rfl
  | ok entries =>
      cases entries with
      | nil => rfl
      | cons entry rest => rfl

theorem listRecords_eq (zoneId : String) (type : RecordType) (name : String) :
    c.listRecords Link.exchange Link.write zoneId type name l =
      let sent := c.transmit (.records zoneId type name)
        (noted l .debug ("Looking up records: " ++ name ++ " (type: " ++ type.text ++ ")"))
      ((received .recordLookup (Json.Value.list? RecordEntry.ofJson?) sent.1).bind
        RecordEntry.toRecords, sent.2) := by
  rw [listRecords, StateM.bind_of_eq (write_eq l .debug _),
    StateM.bind_of_eq (send_eq c .recordLookup _ (.records zoneId type name) _)]
  dsimp only
  cases received .recordLookup (Json.Value.list? RecordEntry.ofJson?)
      (c.transmit (.records zoneId type name) (noted l .debug _)).1 with
  | error e => rfl
  | ok entries => rfl

variable {c}

theorem createRecord_of_live (hc : c.dryRun = false) (zoneId : String) (payload : Payload) :
    c.createRecord Link.exchange Link.write zoneId payload l =
      let sent := c.transmit (.create zoneId payload) l
      ((received .recordCreate RecordEntry.ofJson? sent.1).bind RecordEntry.toRecord, sent.2) := by
  rw [createRecord, hc, if_neg Bool.false_ne_true,
    StateM.bind_of_eq (send_eq c .recordCreate _ (.create zoneId payload) l)]
  dsimp only
  cases received .recordCreate RecordEntry.ofJson? (c.transmit (.create zoneId payload) l).1 with
  | error e => rfl
  | ok entry => rfl

theorem updateRecord_of_live (hc : c.dryRun = false) (zoneId recordId : String)
    (payload : Payload) :
    c.updateRecord Link.exchange Link.write zoneId recordId payload l =
      let sent := c.transmit (.update zoneId recordId payload) l
      ((received .recordUpdate RecordEntry.ofJson? sent.1).bind RecordEntry.toRecord, sent.2) := by
  rw [updateRecord, hc, if_neg Bool.false_ne_true,
    StateM.bind_of_eq (send_eq c .recordUpdate _ (.update zoneId recordId payload) l)]
  dsimp only
  cases received .recordUpdate RecordEntry.ofJson?
      (c.transmit (.update zoneId recordId payload) l).1 with
  | error e => rfl
  | ok entry => rfl

section

variable {l} {host : WebOrigin} {zoneId recordId : String} {payload : Payload}

/-- A live client at the host makes a record if the address fits. -/
theorem createRecord_of_fits (hc : c.dryRun = false)
    (hd : c.Directs (.create zoneId payload) host) (hl : l.host = some host)
    (hf : c.Fits (.create zoneId payload)) :
    ∃ url, c.address? (.create zoneId payload) = some url ∧
      c.createRecord Link.exchange Link.write zoneId payload l =
        ((received .recordCreate RecordEntry.ofJson? (arrived url l.next?)).bind
          RecordEntry.toRecord, l.taken (c.requestAt (.create zoneId payload) url)) := by
  obtain ⟨url, hurl, hsent⟩ := hd.transmit_of_fits hl hf
  refine ⟨url, hurl, ?_⟩
  rw [createRecord_of_live l hc, hsent]

/-- A live client at the host replaces a record if the address fits. -/
theorem updateRecord_of_fits (hc : c.dryRun = false)
    (hd : c.Directs (.update zoneId recordId payload) host) (hl : l.host = some host)
    (hf : c.Fits (.update zoneId recordId payload)) :
    ∃ url, c.address? (.update zoneId recordId payload) = some url ∧
      c.updateRecord Link.exchange Link.write zoneId recordId payload l =
        ((received .recordUpdate RecordEntry.ofJson? (arrived url l.next?)).bind
          RecordEntry.toRecord, l.taken (c.requestAt (.update zoneId recordId payload) url)) := by
  obtain ⟨url, hurl, hsent⟩ := hd.transmit_of_fits hl hf
  refine ⟨url, hurl, ?_⟩
  rw [updateRecord_of_live l hc, hsent]

/-- A record whose address does not fit is not replaced, and nothing is sent. -/
theorem updateRecord_of_not_fits (hc : c.dryRun = false)
    (hd : c.Directs (.update zoneId recordId payload) host)
    (hf : ¬ c.Fits (.update zoneId recordId payload)) :
    ∃ e, c.updateRecord Link.exchange Link.write zoneId recordId payload l = (.error e, l) := by
  obtain ⟨url, -, hsent⟩ := hd.transmit_of_not_fits (l := l) hf
  refine ⟨sendError .recordUpdate (.refused url.text), ?_⟩
  rw [updateRecord_of_live l hc, hsent]
  rfl

end

theorem createRecord_of_dryRun (hc : c.dryRun = true) (zoneId : String) (payload : Payload) :
    c.createRecord Link.exchange Link.write zoneId payload l =
      (.ok (payload.toRecord "dry-run"),
        noted l .info ("[DRY-RUN] Would send POST to zone " ++ zoneId ++ " with payload: " ++
          payloadText payload)) := by
  rw [createRecord, hc, if_pos rfl]
  rfl

theorem updateRecord_of_dryRun (hc : c.dryRun = true) (zoneId recordId : String)
    (payload : Payload) :
    c.updateRecord Link.exchange Link.write zoneId recordId payload l =
      (.ok (payload.toRecord recordId),
        noted l .info ("[DRY-RUN] Would send PATCH for record " ++ recordId ++ " with payload: " ++
          payloadText payload)) := by
  rw [updateRecord, hc, if_pos rfl]
  rfl

end

end Client

end Cloudflare

end ZoneKeeper
