/-
**What every reply comes to.**

A call that is sent comes to one of five ends, and its reply alone decides to which: the reply is
lost, its status refuses the request, it grants an answer, it lists no zone where one was asked for,
or it is reported as something that cannot be used.  The status is looked at first, so what a
refusal says in its body has no part in the kind of the failure.  The body is looked at as a whole:
it grants an answer or it does not, and why it does not is told in words only.

Main definitions:

* `ZoneKeeper.Cloudflare.statusTag` — the kind of failure that a status stands for;
* `ZoneKeeper.Cloudflare.Grants` — a reply grants an answer to a call;
* `ZoneKeeper.Cloudflare.ListsNoZone` — a reply lists no zone where one was asked for;
* `ZoneKeeper.Cloudflare.Verdict` — what a reply makes of a call.

Main results:

* `ZoneKeeper.Cloudflare.tag_statusError` — a refusal is of the kind that its status stands for;
* `ZoneKeeper.Cloudflare.Client.decode_arrived_eq_ok_iff` — a call succeeds exactly with what its
  reply grants;
* `ZoneKeeper.Cloudflare.Client.verdict_decode` — every reply has its verdict;
* `ZoneKeeper.Cloudflare.replies_are_classified` — **every call over a link is classified by its
  reply**.
-/

import ZoneKeeper.Proofs.Cloudflare.Calls

set_option autoImplicit false

namespace ZoneKeeper.Cloudflare

open ZoneKeeper.Http ZoneKeeper.Json ZoneKeeper.Text

/-! ### Statuses -/

/-- The tag of the failure that a status stands for, where it is no success. -/
def statusTag (status : Nat) : String :=
  if status = 401 ∨ status = 403 then "Authentication"
  else if status = 404 then "NotFound"
  else if status = 429 then "RateLimited"
  else "Provider"

/-- **A refusal is of the kind that its status stands for**, whatever it was for and whatever its
body says. -/
theorem tag_statusError (purpose : Purpose) (reply : Reply) :
    (statusError purpose reply).tag = statusTag reply.status := by
  rw [statusError, statusTag]
  by_cases hauth : reply.status = 401 ∨ reply.status = 403
  · rw [if_pos hauth, if_pos hauth]
    rfl
  · rw [if_neg hauth, if_neg hauth]
    by_cases hmissing : reply.status = 404
    · rw [if_pos hmissing, if_pos hmissing]
      rfl
    · rw [if_neg hmissing, if_neg hmissing]
      by_cases hlimited : reply.status = 429
      · rw [if_pos hlimited, if_pos hlimited]
        rfl
      · -- the server's own failures are worded differently, and are of the same kind
        rw [if_neg hlimited, if_neg hlimited]
        split
        · rfl
        · rfl

theorem statusTag_mem (status : Nat) :
    statusTag status ∈ ["Authentication", "NotFound", "RateLimited", "Provider"] := by
  rw [statusTag]
  split
  · decide
  · split
    · decide
    · split
      · decide
      · decide

/-! ### What a reply grants -/

/-- The reply grants an answer to a call: it yields what the call asks for, all records in it are of
the managed type, and of the zones that are listed the first one counts. -/
inductive Grants (canned : Canned) : Call → Answer → Prop
  | zone {zone : String} {entry : ZoneEntry} {rest : List ZoneEntry}
      (h : Yields (Value.list? ZoneEntry.ofJson?) canned (entry :: rest)) :
      Grants canned (.resolveZone zone) (.zoneId entry.id)
  | records {zoneId name : String} {type : RecordType} {entries : List RecordEntry}
      (h : Lists canned entries) (hall : AllManaged entries) :
      Grants canned (.listRecords zoneId type name) (.records (entries.map RecordEntry.asRecord))
  | created {zoneId : String} {payload : Payload} {entry : RecordEntry}
      (h : Yields RecordEntry.ofJson? canned entry) (htype : entry.type = "A") :
      Grants canned (.createRecord zoneId payload) (.record entry.asRecord)
  | updated {zoneId recordId : String} {payload : Payload} {entry : RecordEntry}
      (h : Yields RecordEntry.ofJson? canned entry) (htype : entry.type = "A") :
      Grants canned (.updateRecord zoneId recordId payload) (.record entry.asRecord)

/-- The reply lists no zone, where one was asked for. -/
def ListsNoZone (canned : Canned) (call : Call) (zone : String) : Prop :=
  call = .resolveZone zone ∧ Yields (Value.list? ZoneEntry.ofJson?) canned []

/-- What a reply makes of a call, told by what comes of the call. -/
structure Verdict (canned : Canned) (call : Call) (result : Except Error Answer) : Prop where
  /-- A reply that does not come is a failure of HTTP. -/
  lost : canned.reply? = none → ∃ detail, result = .error (.http detail)
  /-- A status that is no success decides the kind of the failure. -/
  refused : ∀ reply, canned.reply? = some reply → isSuccess reply.status = false →
    ∃ e, result = .error e ∧ e.tag = statusTag reply.status
  /-- The call succeeds exactly with the answers that the reply grants. -/
  granted : ∀ a, result = .ok a ↔ Grants canned call a
  /-- A zone that is not listed is not found. -/
  noZone : ∀ zone, ListsNoZone canned call zone →
    result = .error (.notFound ("Zone not found: " ++ zone))
  /-- Any other reply whose status is a success is reported. -/
  reported : ∀ reply, canned.reply? = some reply → isSuccess reply.status = true →
    (∀ a, ¬ Grants canned call a) → (∀ zone, ¬ ListsNoZone canned call zone) →
    ∃ detail, result = .error (.provider providerName detail)

/-! ### Records that are not managed -/

/-- The failure is one that the provider reports. -/
def IsReported (e : Error) : Prop :=
  ∃ detail, e = .provider providerName detail

theorem RecordEntry.isReported_of_toRecord {entry : RecordEntry} {e : Error}
    (h : entry.toRecord = .error e) : IsReported e := by
  rw [toRecord] at h
  split at h
  · cases h
  · exact ⟨_, (Except.error.inj h).symm⟩

theorem RecordEntry.isReported_of_toRecords {entries : List RecordEntry} {e : Error}
    (h : toRecords entries = .error e) : IsReported e := by
  induction entries with
  | nil => cases h
  | cons entry entries ih =>
      rw [toRecords] at h
      cases hentry : entry.toRecord with
      | error fault =>
          rw [hentry] at h
          obtain rfl := Except.error.inj h
          exact isReported_of_toRecord hentry
      | ok r =>
          rw [hentry] at h
          cases hrest : toRecords entries with
          | error fault =>
              rw [hrest] at h
              obtain rfl := Except.error.inj h
              exact ih hrest
          | ok rs =>
              rw [hrest] at h
              cases h

namespace Client

/-! ### Decoding -/

/-- A call succeeds exactly with what its reply grants. -/
theorem decode_arrived_eq_ok_iff {call : Call} {url : Url} {canned : Canned} {a : Answer} :
    decode call (arrived url canned.reply?) = .ok a ↔ Grants canned call a := by
  constructor
  · intro h
    cases call with
    | resolveZone zone =>
        obtain ⟨id, hfirst, rfl⟩ := map_eq_ok_iff.1 h
        obtain ⟨entries, hlisted, hfirst⟩ := bind_eq_ok_iff.1 hfirst
        cases entries with
        | nil => cases hfirst
        | cons entry rest =>
            obtain rfl := Except.ok.inj hfirst
            exact .zone (received_arrived_eq_ok_iff.1 hlisted)
    | listRecords zoneId type name =>
        obtain ⟨rs, hread, rfl⟩ := map_eq_ok_iff.1 h
        obtain ⟨entries, hlisted, hread⟩ := bind_eq_ok_iff.1 hread
        obtain ⟨hall, rfl⟩ := RecordEntry.toRecords_eq_ok_iff.1 hread
        exact .records (received_arrived_eq_ok_iff.1 hlisted) hall
    | createRecord zoneId payload =>
        obtain ⟨r, hread, rfl⟩ := map_eq_ok_iff.1 h
        obtain ⟨entry, hgiven, hread⟩ := bind_eq_ok_iff.1 hread
        obtain ⟨htype, rfl⟩ := RecordEntry.toRecord_eq_ok_iff.1 hread
        exact .created (received_arrived_eq_ok_iff.1 hgiven) htype
    | updateRecord zoneId recordId payload =>
        obtain ⟨r, hread, rfl⟩ := map_eq_ok_iff.1 h
        obtain ⟨entry, hgiven, hread⟩ := bind_eq_ok_iff.1 hread
        obtain ⟨htype, rfl⟩ := RecordEntry.toRecord_eq_ok_iff.1 hread
        exact .updated (received_arrived_eq_ok_iff.1 hgiven) htype
  · intro h
    cases h with
    | zone h =>
        exact map_eq_ok_iff.2
          ⟨_, bind_eq_ok_iff.2 ⟨_, received_arrived_eq_ok_iff.2 h, rfl⟩, rfl⟩
    | records h hall =>
        exact map_eq_ok_iff.2 ⟨_, bind_eq_ok_iff.2 ⟨_, received_arrived_eq_ok_iff.2 h,
          RecordEntry.toRecords_eq_ok_iff.2 ⟨hall, rfl⟩⟩, rfl⟩
    | created h htype | updated h htype =>
        exact map_eq_ok_iff.2 ⟨_, bind_eq_ok_iff.2 ⟨_, received_arrived_eq_ok_iff.2 h,
          RecordEntry.toRecord_eq_ok_iff.2 ⟨htype, rfl⟩⟩, rfl⟩

/-- A reply whose status is no success fails with its status, before its body is looked at. -/
theorem decode_of_not_isSuccess (call : Call) {reply : Reply}
    (h : isSuccess reply.status = false) :
    ∃ purpose, decode call (.ok reply) = .error (statusError purpose reply) := by
  have hrefused : ∀ {α : Type} (purpose : Purpose) (read : Value → Option α),
      received purpose read (.ok reply) = .error (statusError purpose reply) := by
    intro α purpose read
    rw [received, classify, h]
    rfl
  cases call with
  | resolveZone zone => exact ⟨.zoneLookup, by rw [decode, hrefused]; rfl⟩
  | listRecords zoneId type name => exact ⟨.recordLookup, by rw [decode, hrefused]; rfl⟩
  | createRecord zoneId payload => exact ⟨.recordCreate, by rw [decode, hrefused]; rfl⟩
  | updateRecord zoneId recordId payload => exact ⟨.recordUpdate, by rw [decode, hrefused]; rfl⟩

section

variable {url : Url} {canned : Canned} {reply : Reply} {e : Error}
  (hreply : canned.reply? = some reply) (hs : isSuccess reply.status = true)

include hreply hs

/-- What is taken further from a reply whose status is a success fails as reported, or where it is
taken further. -/
theorem of_taken_further_eq_error {α β : Type} {purpose : Purpose} {read : Value → Option α}
    {further : α → Except Error β} {answer : β → Answer}
    (h : ((received purpose read (arrived url canned.reply?)).bind further).map answer =
      .error e) :
    IsReported e ∨ ∃ a, Yields read canned a ∧ further a = .error e := by
  cases hreceived : received purpose read (arrived url canned.reply?) with
  | error fault =>
      rw [hreceived] at h
      obtain rfl : fault = e := Except.error.inj h
      rw [hreply] at hreceived
      obtain ⟨hno, -⟩ | ⟨-, detail, rfl⟩ := classify_eq_error hreceived
      · cases hno.symm.trans hs
      · exact .inl ⟨_, rfl⟩
  | ok a =>
      rw [hreceived] at h
      refine .inr ⟨a, received_arrived_eq_ok_iff.1 hreceived, ?_⟩
      change (further a).map answer = .error e at h
      cases hfurther : further a with
      | error fault =>
          rw [hfurther] at h
          obtain rfl : fault = e := Except.error.inj h
          rfl
      | ok b =>
          rw [hfurther] at h
          cases h

/-- A reply whose status is a success fails as reported, or as a list without the zone. -/
theorem of_decode_eq_error {call : Call} (h : decode call (arrived url canned.reply?) = .error e) :
    IsReported e ∨ ∃ zone, ListsNoZone canned call zone := by
  cases call with
  | resolveZone zone =>
      obtain he | ⟨entries, hlisted, hfirst⟩ := of_taken_further_eq_error hreply hs h
      · exact .inl he
      · cases entries with
        | nil => exact .inr ⟨zone, rfl, hlisted⟩
        | cons entry rest => cases hfirst
  | listRecords zoneId type name =>
      obtain he | ⟨entries, -, hread⟩ := of_taken_further_eq_error hreply hs h
      · exact .inl he
      · exact .inl (RecordEntry.isReported_of_toRecords hread)
  | createRecord zoneId payload | updateRecord zoneId recordId payload =>
      obtain he | ⟨entry, -, hread⟩ := of_taken_further_eq_error hreply hs h
      · exact .inl he
      · exact .inl (RecordEntry.isReported_of_toRecord hread)

end

/-- **Every reply has its verdict.** -/
theorem verdict_decode (call : Call) (url : Url) (canned : Canned) :
    Verdict canned call (decode call (arrived url canned.reply?)) where
  lost hreply := by
    rw [hreply]
    exact decode_error call _
  refused reply hreply hs := by
    obtain ⟨purpose, hdecode⟩ := decode_of_not_isSuccess call hs
    refine ⟨_, ?_, tag_statusError purpose reply⟩
    rw [hreply]
    exact hdecode
  granted a := decode_arrived_eq_ok_iff
  noZone zone := by
    rintro ⟨rfl, hlisted⟩
    rw [decode, received_arrived_eq_ok_iff.2 hlisted]
    rfl
  reported reply hreply hs hno hzone := by
    cases hdecode : decode call (arrived url canned.reply?) with
    | ok a => exact absurd (decode_arrived_eq_ok_iff.1 hdecode) (hno a)
    | error e =>
        obtain ⟨detail, rfl⟩ | ⟨zone, hlisted⟩ := of_decode_eq_error hreply hs hdecode
        · exact ⟨detail, rfl⟩
        · exact absurd hlisted (hzone zone)

end Client

/-- The failures of a verdict are of five kinds. -/
theorem Verdict.tag_mem {canned : Canned} {call : Call} {e : Error}
    (h : Verdict canned call (.error e)) :
    e.tag ∈ ["Http", "Authentication", "NotFound", "RateLimited", "Provider"] := by
  cases hreply : canned.reply? with
  | none =>
      obtain ⟨detail, he⟩ := h.lost hreply
      obtain rfl := Except.error.inj he
      exact List.mem_cons_self
  | some reply =>
      cases hs : isSuccess reply.status with
      | false =>
          obtain ⟨e', he, htag⟩ := h.refused reply hreply hs
          obtain rfl := Except.error.inj he
          rw [htag]
          exact List.mem_cons_of_mem _ (statusTag_mem reply.status)
      | true =>
          have hno : ∀ a, ¬ Grants canned call a := fun a ha => nomatch (h.granted a).2 ha
          by_cases hzone : ∃ zone, ListsNoZone canned call zone
          · obtain ⟨zone, hlisted⟩ := hzone
            obtain rfl := Except.error.inj (h.noZone zone hlisted)
            exact List.mem_cons_of_mem _ (statusTag_mem 404)
          · obtain ⟨detail, he⟩ := h.reported reply hreply hs hno (not_exists.1 hzone)
            obtain rfl := Except.error.inj he
            exact List.mem_cons_of_mem _ (statusTag_mem 500)

/-! ### Calls -/

/-- Where the base leads to the link's host, the host receives the requests that fit. -/
theorem Client.requests_ne_iff_fits {c : Client} {host : WebOrigin} (hc : c.SendsTo host)
    {call : Call} (h : c.dryRun = false ∨ call.isWrite = false) {l : Link}
    (hl : l.host = some host) :
    ((Session.providerOf c).perform call l).2.requests ≠ l.requests ↔ c.Fits (.ofCall call) := by
  by_cases hf : c.Fits (.ofCall call)
  · obtain ⟨url, entries, -, hperform⟩ := perform_of_fits hc h hl hf
    refine iff_of_true ?_ hf
    rw [hperform]
    exact l.requests_taken_ne _
  · obtain ⟨e, entries, hperform⟩ := perform_of_not_fits hc h (l := l) hf
    refine iff_of_false ?_ hf
    rw [hperform]
    exact not_not_intro rfl

/-- **Every call over a link is classified by its reply.**  Take a call that is no write of a dry
run.  If the host does not receive the request, the call is a failure of HTTP; if it does, the call
has the verdict of the reply that is next.  A call never fails as a wrong configuration, with a
failure of JSON or with one that is already wrapped.  Where the base leads to the link's host and the
token may stand in a header, the host receives the request exactly if its address is short enough. -/
theorem replies_are_classified (c : Client) (call : Call) (l : Link)
    (h : c.dryRun = false ∨ call.isWrite = false) :
    let made := (Session.providerOf c).perform call l
    (made.2.requests = l.requests → ∃ detail, made.1 = .error (.http detail)) ∧
      (made.2.requests ≠ l.requests → Verdict (l.queue.headD .exhausted) call made.1) ∧
      (∀ e, made.1 = .error e → e.tag ∉ ["Config", "Json", "Operation"]) ∧
      ∀ host, c.SendsTo host → l.host = some host →
        (made.2.requests ≠ l.requests ↔ c.Fits (.ofCall call)) := by
  intro made
  have hclassified : (made.2.requests = l.requests → ∃ detail, made.1 = .error (.http detail)) ∧
      (made.2.requests ≠ l.requests → Verdict (l.queue.headD .exhausted) call made.1) := by
    obtain ⟨entries, -, ⟨detail, hfailed⟩ | ⟨url, -, htaken⟩⟩ := Client.perform_cases h l
    · have hmade : made = (.error (.http detail), { l with log := l.log ++ entries }) := hfailed
      rw [hmade]
      exact ⟨fun _ => ⟨detail, rfl⟩, fun hne => absurd rfl hne⟩
    · have hmade : made = (Client.decode call (Client.arrived url l.next?),
          { l.taken (c.requestAt (.ofCall call) url) with log := l.log ++ entries }) := htaken
      rw [hmade]
      exact ⟨fun heq => absurd heq (l.requests_taken_ne _),
        fun _ => Client.verdict_decode call url _⟩
  refine ⟨hclassified.1, hclassified.2, fun e he => ?_,
    fun host hc hl => Client.requests_ne_iff_fits hc h hl⟩
  have hother : ∀ tag ∈ ["Http", "Authentication", "NotFound", "RateLimited", "Provider"],
      tag ∉ ["Config", "Json", "Operation"] := by decide
  refine hother e.tag ?_
  by_cases hstays : made.2.requests = l.requests
  · obtain ⟨detail, hmade⟩ := hclassified.1 hstays
    obtain rfl := Except.error.inj (he.symm.trans hmade)
    exact List.mem_cons_self
  · have hverdict := hclassified.2 hstays
    rw [he] at hverdict
    exact hverdict.tag_mem

/-- Two records are listed in the order of the reply, and a write is refused by a reply whose body is
cut short. -/
theorem listed_in_order_and_refused_unread :
    let c : Client := ⟨"secret", "http://127.0.0.1:8080", false⟩
    let made := fun (call : Call) (canned : Canned) =>
      ((Session.providerOf c).perform call
        { host := some "127.0.0.1:8080".toList, queue := [canned] }).1
    let records : List Record :=
      [⟨"rec-2", .a, "www.example.com", "1.2.3.4", 300⟩,
        ⟨"rec-1", .a, "www.example.com", "5.6.7.8", 60⟩]
    made (.listRecords "zone-123" .a "www.example.com")
        (success (writeArray (records.map Record.json))) = .ok (.records records) ∧
      ∃ e, made (.createRecord "zone-123" ⟨.a, "www.example.com", "1.2.3.4", 300⟩)
        (.reply 404 [] 1) = .error e ∧ e.tag = "NotFound" := by
  intro c made records
  have hsends : c.SendsTo "127.0.0.1:8080".toList := ⟨by decide +kernel, by decide +kernel⟩
  have hverdict : ∀ call canned, c.Fits (.ofCall call) → Verdict canned call (made call canned) := by
    intro call canned hfits
    obtain ⟨-, hsent, -, hreceived⟩ := replies_are_classified c call
      { host := some "127.0.0.1:8080".toList, queue := [canned] } (.inl rfl)
    exact hsent ((hreceived _ hsends rfl).2 hfits)
  constructor
  · have hgrants : Grants (success (writeArray (records.map Record.json)))
        (.listRecords "zone-123" .a "www.example.com") (.records records) :=
      .records (lists_records records)
        (RecordEntry.toRecords_eq_ok_iff.1 (Record.toRecords_asEntry records)).1
    exact ((hverdict _ _ (by decide +kernel)).granted _).2 hgrants
  · exact (hverdict _ _ (by decide +kernel)).refused ⟨404, none⟩ rfl rfl

end ZoneKeeper.Cloudflare
