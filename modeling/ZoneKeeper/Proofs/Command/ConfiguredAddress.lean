/-
**The configured address is what is compared and written.**

The text of an address is the only text that is read as the address, so the environment's variable,
without the blanks around it, is the text that the command works with.  From there on the text is
never restated: an update compares it with the content of the first record that is listed, and every
call that writes has it as the content of its payload.  A client sends for a call at most the
request that carries it, and the body of that request reads back to the payload.  So what any
server receives in a write is the variable's text, and environments with different texts never write
the same content.

Main definitions:

* `ZoneKeeper.writesAfter` — the writes that a listing leads to, for a text to be brought there;
* `ZoneKeeper.Call.WritesOnly`, `ZoneKeeper.Http.Request.WritesOnly` — a read, or a write of this
  payload;
* `ZoneKeeper.Http.Link.Extends` — a link has received no other requests than of a kind;
* `ZoneKeeper.Cloudflare.Sends` — an action sends no other requests than of a kind;
* `ZoneKeeper.Command.Writes` — an environment makes the command write a content.

Main results:

* `ZoneKeeper.Course.calls_of_listed` — what an update does about a listing;
* `ZoneKeeper.Cloudflare.sends_perform` — a call sends nothing but the request that carries it;
* `ZoneKeeper.Command.sends_run` — a command writes one payload and no other;
* `ZoneKeeper.Command.configured_address_is_compared_and_written` — **the text of the variable is
  the text that is compared and written**.
-/

import ZoneKeeper.Proofs.Cloudflare.Agreement
import ZoneKeeper.Proofs.Command.ExitCode

set_option autoImplicit false

namespace ZoneKeeper

open ZoneKeeper.Http ZoneKeeper.Json ZoneKeeper.Text

/-! ### The writes of an update -/

/-- The writes that a listing leads to, where the text is to be the content of the name's record:
a new record if none is listed, and another content of the first record unless it has the text. -/
def writesAfter (zone : Zone) (name text : String) (ttl : UInt32) : List Record → List Call
  | [] => [.createRecord zone.id ⟨.a, name, text, ttl⟩]
  | first :: _ =>
      if first.content = text then [] else [.updateRecord zone.id first.id ⟨.a, name, text, ttl⟩]

/-- The call reads, or it writes the payload. -/
def Call.WritesOnly (payload : Payload) (call : Call) : Prop :=
  call.payload? = if call.isWrite then some payload else none

namespace Course

variable {σ : Type} {p : Provider (StateM σ)} {zone : Zone} {name : String} {address : Address}
  {ttl : UInt32} {s s' : σ} {calls : List Call} {result : Except Error Outcome}
  (h : Course p zone name address ttl s calls result s')

include h

/-- What an update does about a listing: the text of the address is what it compares and writes. -/
theorem calls_of_listed (hz : zone.name.toList <:+ name.toList) {listed : List Record} {s₁ : σ}
    (hl : p.listRecords zone.id .a name s = (.ok listed, s₁)) :
    calls = .listRecords zone.id .a name :: writesAfter zone name address.text ttl listed := by
  cases h with
  | outsideZone hz' => exact absurd hz hz'
  | lookupFailed _ hl' => cases hl.symm.trans hl'
  | unchanged _ hl' hc =>
      cases hl.symm.trans hl'
      rw [writesAfter, if_pos hc]
  | updateFailed _ hl' hc _ | updated _ hl' hc _ =>
      cases hl.symm.trans hl'
      rw [writesAfter, if_neg hc]
  | createFailed _ hl' _ | created _ hl' _ =>
      cases hl.symm.trans hl'
      rfl

/-- All calls of an update read, or write one payload. -/
theorem writesOnly : ∀ call ∈ calls, call.WritesOnly ⟨.a, name, address.text, ttl⟩ := by
  cases h with
  | outsideZone _ => exact List.forall_mem_nil _
  | lookupFailed _ _ | unchanged _ _ _ => exact List.forall_mem_singleton.2 rfl
  | updateFailed _ _ _ _ | updated _ _ _ _ | createFailed _ _ _ | created _ _ _ =>
      exact List.forall_mem_cons.2 ⟨rfl, List.forall_mem_singleton.2 rfl⟩

end Course

/-! ### Requests on a link -/

namespace Http

/-- The request reads, or its body reads back to the payload. -/
def Request.WritesOnly (payload : Payload) (r : Request) : Prop :=
  readText? Payload.ofJson? r.body = if r.method.isWrite then some payload else none

/-- The second link has received what the first one has, and after it only requests of the kind. -/
def Link.Extends (P : Request → Prop) (l l' : Link) : Prop :=
  ∃ requests, l'.requests = l.requests ++ requests ∧ ∀ r ∈ requests, P r

namespace Link.Extends

variable {P Q : Request → Prop} {l l₁ l' : Link}

theorem refl (l : Link) : Extends P l l :=
  ⟨[], (List.append_nil _).symm, List.forall_mem_nil P⟩

theorem trans (h : Extends P l l₁) (h' : Extends P l₁ l') : Extends P l l' := by
  obtain ⟨requests, hrequests, hP⟩ := h
  obtain ⟨more, hmore, hP'⟩ := h'
  refine ⟨requests ++ more, ?_, List.forall_mem_append.2 ⟨hP, hP'⟩⟩
  rw [hmore, hrequests, List.append_assoc]

theorem mono (h : Extends P l l') (hPQ : ∀ r, P r → Q r) : Extends Q l l' := by
  obtain ⟨requests, hrequests, hP⟩ := h
  exact ⟨requests, hrequests, fun r hr => hPQ r (hP r hr)⟩

/-- The log has no part in it. -/
theorem withLog (h : Extends P l l') (entries : List Entry) :
    Extends P l { l' with log := entries } := h

end Link.Extends

end Http

namespace Cloudflare

variable {α β : Type} {P Q : Request → Prop}

/-- On every link, the action sends no other requests than of the kind. -/
def Sends (P : Request → Prop) (act : StateM Link α) : Prop :=
  ∀ l, Link.Extends P l (act l).2

namespace Sends

theorem pure (a : α) : Sends P (pure a) := fun l => .refl l

theorem bind {act : StateM Link α} {next : α → StateM Link β} (h : Sends P act)
    (hnext : ∀ a, Sends P (next a)) : Sends P (act >>= next) :=
  fun l => (h l).trans (hnext _ _)

theorem mono {act : StateM Link α} (h : Sends P act) (hPQ : ∀ r, P r → Q r) : Sends Q act :=
  fun l => (h l).mono hPQ

end Sends

/-- A sink that touches nothing but the log sends nothing. -/
theorem OnlyLogs.sends {log : LogSink (StateM Link)} (hlog : OnlyLogs log) (entry : Entry) :
    Sends P (log entry) := by
  intro l
  obtain ⟨entries, hentry⟩ := hlog entry l
  rw [hentry]
  exact (Link.Extends.refl l).withLog entries

/-! ### What a call sends -/

section

variable (c : Client)

theorem sends_transmit (call : Call) : Sends (Carries c call) (c.transmit (.ofCall call)) := by
  intro l
  obtain ⟨fault, hhome⟩ | ⟨url, hprepare, -, htaken⟩ := c.transmit_cases (.ofCall call) l
  · rw [hhome]
    exact .refl l
  · rw [htaken]
    exact ⟨_, rfl, List.forall_mem_singleton.2
      (carries_requestAt (Client.of_prepare_eq_ok hprepare).1)⟩

theorem sends_send (call : Call) (purpose : Purpose) (read : Value → Option α) :
    Sends (Carries c call) (c.send Link.exchange purpose read (.ofCall call)) := by
  intro l
  rw [Client.send_eq]
  exact sends_transmit c call l

variable {log : LogSink (StateM Link)} (hlog : OnlyLogs log)

include hlog

/-- **A call sends nothing but the request that carries it.** -/
theorem sends_perform (call : Call) :
    Sends (Carries c call) ((c.provider Link.exchange log).perform call) := by
  cases call with
  | resolveZone zone =>
      refine Sends.bind ?_ fun _ => .pure _
      refine (hlog.sends _).bind fun _ =>
        (sends_send c (.resolveZone zone) _ _).bind fun answer => ?_
      rcases answer with e | _ | ⟨entry, rest⟩
      · exact .pure _
      · exact .pure _
      · exact (hlog.sends _).bind fun _ => .pure _
  | listRecords zoneId type name =>
      refine Sends.bind ?_ fun _ => .pure _
      refine (hlog.sends _).bind fun _ =>
        (sends_send c (.listRecords zoneId type name) _ _).bind fun answer => ?_
      cases answer with
      | error e => exact .pure _
      | ok entries => exact .pure _
  | createRecord zoneId payload =>
      refine Sends.bind ?_ fun _ => .pure _
      change Sends _ (c.createRecord Link.exchange log zoneId payload)
      rw [Client.createRecord]
      split
      · exact (hlog.sends _).bind fun _ => .pure _
      · refine (sends_send c (.createRecord zoneId payload) _ _).bind fun answer => ?_
        cases answer with
        | error e => exact .pure _
        | ok entry => exact .pure _
  | updateRecord zoneId recordId payload =>
      refine Sends.bind ?_ fun _ => .pure _
      change Sends _ (c.updateRecord Link.exchange log zoneId recordId payload)
      rw [Client.updateRecord]
      split
      · exact (hlog.sends _).bind fun _ => .pure _
      · refine (sends_send c (.updateRecord zoneId recordId payload) _ _).bind fun answer => ?_
        cases answer with
        | error e => exact .pure _
        | ok entry => exact .pure _

omit hlog in
/-- A request that carries a call writes what the call writes. -/
theorem Carries.writesOnly {call : Call} {payload : Payload} {r : Request} (h : Carries c call r)
    (hcall : call.WritesOnly payload) : r.WritesOnly payload := by
  obtain ⟨url, -, rfl⟩ := h.request
  have hmethod : (c.requestAt (.ofCall call) url).method.isWrite = call.isWrite :=
    Draft.isWrite_ofCall call
  rw [Request.WritesOnly, h.body, hmethod]
  exact hcall

end

/-! ### What an update sends -/

/-- A dialogue sends what its calls send. -/
theorem extends_of_answers {p : Provider (StateM Link)} {d : Dialogue} {l l' : Link}
    (h : Answers p d l l') (hsends : ∀ x ∈ d, Sends P (p.perform x.1)) : Link.Extends P l l' := by
  induction h with
  | nil => exact .refl _
  | @cons call answer d l l₁ l' hcall _ ih =>
      obtain ⟨hfirst, hrest⟩ := List.forall_mem_cons.1 hsends
      have hone := hfirst l
      rw [hcall] at hone
      exact hone.trans (ih hrest)

theorem extends_foldl_log {log : LogSink (StateM Link)} (hlog : OnlyLogs log)
    (entries : List Entry) (l : Link) :
    Link.Extends P l (entries.foldl (fun l e => (log e l).2) l) := by
  induction entries generalizing l with
  | nil => exact .refl l
  | cons entry entries ih => exact (hlog.sends entry l).trans (ih _)

/-- **An update over a link writes one payload and no other**: the name in full, the text of the
address and the time to live in effect. -/
theorem sends_update (c : Client) {log : LogSink (StateM Link)} (hlog : OnlyLogs log) (zone : Zone)
    (name : String) (address : Address) (ttl : Int32) :
    Sends (Request.WritesOnly ⟨.a, RecordName.complete name, address.text, effectiveTtl ttl⟩)
      (Reconciler.update ⟨c.provider Link.exchange log, zone, log⟩ name address ttl) := by
  intro l
  obtain ⟨calls, result, l', h⟩ := exists_course (c.provider Link.exchange log) zone
    (RecordName.complete name) address (effectiveTtl ttl) l
  obtain ⟨d, -, hanswers, rfl⟩ := h.exists_leads
  rw [Course.update_eq_logged h]
  refine (extends_of_answers hanswers fun x hx => ?_).trans (extends_foldl_log hlog _ l')
  exact (sends_perform c hlog x.1).mono fun r hr =>
    hr.writesOnly c (h.writesOnly x.1 (List.mem_map_of_mem hx))

end Cloudflare

namespace Command

open ZoneKeeper.Cloudflare

/-! ### What a command sends -/

/-- The payload that options say. -/
def Options.payload (o : Options) : Payload :=
  ⟨.a, RecordName.complete o.record, o.address.text, effectiveTtl o.ttl⟩

/-- A command with its options writes the payload that they say and no other. -/
theorem sends_run {options : Options} (hvalid : options.settings.fault? = none)
    {log : LogSink (StateM Link)} (hlog : OnlyLogs log) :
    Sends (Request.WritesOnly options.payload) (run Link.exchange log options) := by
  intro l
  obtain ⟨⟨c, hc⟩, hzone⟩ := ofSettings_of_valid hvalid
  obtain ⟨entries, hconnect⟩ := connect_onlyLogs hlog hc hzone l
  have hlookup : Link.Extends (Request.WritesOnly options.payload) l
      { (c.transmit (.zones options.settings.zone) l).2 with log := entries } :=
    ((sends_transmit c (.resolveZone options.settings.zone) l).mono fun r hr =>
      hr.writesOnly c rfl).withLog entries
  rw [run, StateM.bind_of_eq hconnect]
  refine hlookup.trans ?_
  cases zoneOf options.settings.zone (c.transmit (.zones options.settings.zone) l).1 with
  | error e => exact (hlog.sends _).bind (fun _ => .pure _) _
  | ok id =>
      refine (sends_update c hlog ⟨id, options.settings.zone⟩ options.record options.address
        options.ttl).bind (fun result => ?_) _
      cases result with
      | error e => exact (hlog.sends _).bind fun _ => .pure _
      | ok outcome => exact (hlog.sends _).bind fun _ => .pure _

/-- What a host receives from a command are reads and writes of the payload that its options say. -/
theorem writesOnly_playback {env : Environment} {options : Options}
    (h : Options.read env = .ok options) (host : Option WebOrigin) (queue : List Canned) :
    ∀ r ∈ (playback host queue env).requests, r.WritesOnly options.payload := by
  obtain ⟨requests, hrequests, hwrites⟩ :=
    sends_run (fault?_of_read h) (onlyLogs_atLevel options.level) { host, queue }
  rw [(playback_of_read h host queue).2, hrequests]
  exact hwrites

/-! ### The configured address -/

/-- A command with its options works with a text, whatever the provider, the host and the replies
are. -/
structure WorksWith (env : Environment) (o : Options) (text : String) : Prop where
  /-- It is the text of the address. -/
  address : o.address.text = text
  /-- It is compared with the first record that is listed, and decides the calls that follow. -/
  compared : ∀ (σ : Type) (p : Provider (StateM σ)) (zone : Zone) (s s₁ : σ) (listed : List Record),
    let name := RecordName.complete o.record
    zone.name.toList <:+ name.toList → p.listRecords zone.id .a name s = (.ok listed, s₁) →
    ((Reconciler.observed p zone).update o.record o.address o.ttl ⟨s, [], []⟩).2.calls =
      .listRecords zone.id .a name :: writesAfter zone name text (effectiveTtl o.ttl) listed
  /-- It is the content of the payload of every call that writes. -/
  written : ∀ (σ : Type) (p : Provider (StateM σ)) (zone : Zone) (s : σ),
    ∀ call ∈ ((Reconciler.observed p zone).update o.record o.address o.ttl ⟨s, [], []⟩).2.calls,
      call.WritesOnly ⟨.a, RecordName.complete o.record, text, effectiveTtl o.ttl⟩
  /-- It is the content of the payload of every request that writes. -/
  sent : ∀ (host : Option WebOrigin) (queue : List Canned),
    ∀ r ∈ (playback host queue env).requests,
      r.WritesOnly ⟨.a, RecordName.complete o.record, text, effectiveTtl o.ttl⟩

/-- A command works with the text of its address. -/
theorem worksWith_text {env : Environment} {o : Options} (h : Options.read env = .ok o) :
    WorksWith env o o.address.text where
  address := rfl
  compared σ p zone s s₁ listed hz hl := by
    obtain ⟨calls, result, s', hcourse⟩ :=
      exists_course p zone (RecordName.complete o.record) o.address (effectiveTtl o.ttl) s
    rw [hcourse.update_eq [] []]
    exact hcourse.calls_of_listed hz hl
  written σ p zone s := by
    obtain ⟨calls, result, s', hcourse⟩ :=
      exists_course p zone (RecordName.complete o.record) o.address (effectiveTtl o.ttl) s
    rw [hcourse.update_eq [] []]
    exact hcourse.writesOnly
  sent := writesOnly_playback h

/-- An environment makes the command write a content, in a call on some provider or in a request
that some host receives. -/
inductive Writes (env : Environment) : String → Prop
  | call {o : Options} {σ : Type} {p : Provider (StateM σ)} {zone : Zone} {s : σ} {call : Call}
      {payload : Payload} : Options.read env = .ok o →
      call ∈ ((Reconciler.observed p zone).update o.record o.address o.ttl ⟨s, [], []⟩).2.calls →
      call.payload? = some payload → Writes env payload.content
  | request {host : Option WebOrigin} {queue : List Canned} {r : Request} {payload : Payload} :
      r ∈ (playback host queue env).requests →
      readText? Payload.ofJson? r.body = some payload → Writes env payload.content

/-- What is written is the text of the address. -/
theorem Writes.eq_text {env : Environment} {content : String} (h : Writes env content) :
    ∃ o, Options.read env = .ok o ∧ content = o.address.text := by
  -- a read has no payload, and a write has the one payload
  have hpayload : ∀ {write : Bool} {payload target : Payload},
      (if write then some target else none) = some payload → payload = target := by
    intro write payload target h
    cases write with
    | false => cases h
    | true => exact (Option.some.inj h).symm
  cases h with
  | call hread hcall hsome =>
      have hwrites := (worksWith_text hread).written _ _ _ _ _ hcall
      exact ⟨_, hread, congrArg Payload.content (hpayload (hwrites.symm.trans hsome))⟩
  | @request host queue r payload hr hsome =>
      cases hread : Options.read env with
      | error fault =>
          rw [(playback_of_error hread host queue).2] at hr
          cases hr
      | ok o =>
          have hwrites := (worksWith_text hread).sent host queue r hr
          exact ⟨o, rfl, congrArg Payload.content (hpayload (hwrites.symm.trans hsome))⟩

/-- **The text of the variable is the text that is compared and written.**  Every address is read
back from its text.  In every environment that gives options, the variable of the address is set,
and its text between blanks is the text of the address, the one that an update compares with the
first record that is listed, and the content of everything that is written: in every call on any
provider, and in every request that any host receives.  Environments with different texts never
write the same content. -/
theorem configured_address_is_compared_and_written :
    (∀ a : Address, Address.parse? a.text = some a) ∧
    (∀ (env : Environment) (o : Options), Options.read env = .ok o →
      ∃ raw, env .ip = some raw ∧ WorksWith env o (trim raw)) ∧
    ∀ (env env' : Environment) (raw raw' : String), env .ip = some raw → env' .ip = some raw' →
      trim raw ≠ trim raw' → ∀ content, Writes env content → ¬ Writes env' content := by
  have htext : ∀ {env : Environment} {o : Options} {raw : String}, Options.read env = .ok o →
      env .ip = some raw → o.address.text = trim raw := by
    intro env o raw hread hraw
    obtain ⟨hfrom, -⟩ := Options.read_eq_ok_iff.1 hread
    exact ((given_iff_of_set hraw).1 hfrom.address).2.symm
  refine ⟨fun a => Address.parse?_eq_some_iff.2 rfl, ?_, ?_⟩
  · intro env o hread
    obtain ⟨raw, hraw, -⟩ := (Options.read_eq_ok_iff.1 hread).1.address
    exact ⟨raw, hraw, htext hread hraw ▸ worksWith_text hread⟩
  · intro env env' raw raw' hraw hraw' hne content hwrites hwrites'
    obtain ⟨o, hread, rfl⟩ := hwrites.eq_text
    obtain ⟨o', hread', hsame⟩ := hwrites'.eq_text
    exact hne ((htext hread hraw).symm.trans (hsame.trans (htext hread' hraw')))

/-- An environment whose address is written in this way, for a server on this machine. -/
def environmentWithIp (ip : String) : Environment
  | .ip => some ip
  | .apiToken => some "secret"
  | .zone => some "example.com"
  | .apiBase => some "http://127.0.0.1:8080"
  | .record => some "www.example.com"
  | .ttl | .mode | .logLevel => none

/-- Blanks around the address are not written, and another address writes something else. -/
theorem trimmed_address_is_written :
    let replies := [success (Answer.zoneId "zone-123").json, success (writeArray [])]
    let t := playback (some "127.0.0.1:8080".toList) replies (environmentWithIp " 203.0.113.7 ")
    (∃ o, Options.read (environmentWithIp " 203.0.113.7 ") = .ok o ∧
        WorksWith (environmentWithIp " 203.0.113.7 ") o "203.0.113.7") ∧
      (∃ r ∈ t.requests, r.method = .post ∧
        r.body = payloadText ⟨.a, "www.example.com", "203.0.113.7", 60⟩) ∧
      Writes (environmentWithIp " 203.0.113.7 ") "203.0.113.7" ∧
      ¬ Writes (environmentWithIp "203.0.113.8") "203.0.113.7" := by
  intro replies t
  obtain ⟨-, hworks, hdiffer⟩ := configured_address_is_compared_and_written
  have hread : Options.read (environmentWithIp " 203.0.113.7 ") =
      .ok ⟨⟨"secret", "example.com", false, some "http://127.0.0.1:8080"⟩, "www.example.com",
        ⟨203, 0, 113, 7⟩, 0, .info⟩ := by decide +kernel
  have hpost : ∃ r ∈ t.requests, r.method = .post ∧
      r.body = payloadText ⟨.a, "www.example.com", "203.0.113.7", 60⟩ := by decide +kernel
  have hwrites : Writes (environmentWithIp " 203.0.113.7 ") "203.0.113.7" := by
    obtain ⟨r, hr, -, hbody⟩ := hpost
    exact .request hr (hbody ▸ readText?_payloadText _)
  refine ⟨⟨_, hread, ?_⟩, hpost, hwrites, ?_⟩
  · obtain ⟨raw, hraw, hworks⟩ := hworks _ _ hread
    cases hraw
    exact hworks
  · exact hdiffer _ _ _ _ rfl rfl (by decide +kernel) _ hwrites

end Command

end ZoneKeeper
