/-
**Replies that restate each other.**

Providers put more into their answers than is read, and in whatever order they like.  Two replies
whose bodies restate each other in the shape of what is read from them mean the same.  An update
takes at most two replies, one to its lookup and one to its write, so where both restate each other
the two runs send the same requests, log the same and come to the same outcome.  Only the text of a
failure can differ: a reply whose status tells of no success may be quoted in it, and then each run
quotes its own.

Main definitions:

* `ZoneKeeper.Cloudflare.RepliesRestate`, `ZoneKeeper.Cloudflare.QueuesRestate` — replies, and queues
  of them, that restate each other;
* `ZoneKeeper.Cloudflare.DifferInQuote` — replies that a failure quotes, and that are not the same;
* `ZoneKeeper.Cloudflare.Agree` — the same result, or two failures that quote their replies.

Main results:

* `ZoneKeeper.Cloudflare.RepliesRestate.agree` — replies that restate each other mean the same;
* `ZoneKeeper.Cloudflare.update_agrees` — an update agrees on queues that restate each other;
* `ZoneKeeper.Cloudflare.members_are_read_by_name` — **every reader reads members by their names, and
  so does an update**;
* `ZoneKeeper.Cloudflare.texts_are_told_apart` — a key that is no text is not skipped, and white space
  is quoted.
-/

import ZoneKeeper.Proofs.Cloudflare.Gating
import ZoneKeeper.Proofs.Readers

set_option autoImplicit false

namespace ZoneKeeper.Cloudflare

open ZoneKeeper.Http ZoneKeeper.Json ZoneKeeper.Text

/-! ### Replies -/

/-- The replies are the same, or their bodies restate each other in the shape. -/
inductive RepliesRestate (s : Shape) : Canned → Canned → Prop
  | same (canned : Canned) : RepliesRestate s canned canned
  | body {status missing : Nat} {body body' : List UInt8} {v v' : Value} (hv : Spells body v)
      (hv' : Spells body' v') (h : Restates s v v') :
      RepliesRestate s (.reply status body missing) (.reply status body' missing)

/-- The statuses other than success that are told without the body of the reply. -/
def unquoted : List Nat := [401, 403, 404, 429]

/-- The failure that a reply causes quotes its body. -/
def isQuoted : Canned → Bool
  | .reply status _ _ => !isSuccess status && !unquoted.contains status
  | .drop => false

/-- The replies are not the same, and the failures that they cause quote their bodies. -/
def DifferInQuote (canned canned' : Canned) : Prop :=
  canned ≠ canned' ∧ isQuoted canned = true

/-- The results are the same, or they are failures that quote replies, where that may be. -/
inductive Agree {α : Type} (mayQuote : Prop) : Except Error α → Except Error α → Prop
  | same (result : Except Error α) : Agree mayQuote result result
  | quoted (h : mayQuote) (detail detail' : String) :
      Agree mayQuote (.error (.provider providerName detail))
        (.error (.provider providerName detail'))

theorem Agree.imp {α : Type} {p q : Prop} {x x' : Except Error α} (h : Agree p x x') (hpq : p → q) :
    Agree q x x' := by
  cases h with
  | same => exact .same _
  | quoted h detail detail' => exact .quoted (hpq h) detail detail'

theorem Agree.bind {α β : Type} {mayQuote : Prop} {x x' : Except Error α} (h : Agree mayQuote x x')
    (next : α → Except Error β) : Agree mayQuote (x.bind next) (x'.bind next) := by
  cases h with
  | same => exact .same _
  | quoted h detail detail' => exact .quoted h detail detail'

theorem statusError_of_unquoted {status : Nat} (h : status ∈ unquoted) (purpose : Purpose)
    (body body' : Option (List UInt8)) :
    statusError purpose ⟨status, body⟩ = statusError purpose ⟨status, body'⟩ := by
  simp only [unquoted, List.mem_cons, List.not_mem_nil, or_false] at h
  rcases h with rfl | rfl | rfl | rfl <;> rfl

theorem statusError_of_quoted {status : Nat} (h : status ∉ unquoted) (purpose : Purpose)
    (body : Option (List UInt8)) :
    ∃ detail, statusError purpose ⟨status, body⟩ = .provider providerName detail := by
  simp only [unquoted, List.mem_cons, List.not_mem_nil, or_false, not_or] at h
  obtain ⟨h401, h403, h404, h429⟩ := h
  simp only [statusError, h401, h403, h404, h429, or_self, if_false]
  split
  · exact ⟨_, rfl⟩
  · exact ⟨_, rfl⟩

section

variable {α : Type} {s : Shape} {read : Value → Option α}

/-- Bodies that restate each other mean the same, unless they are quoted. -/
theorem classify_agree (hr : Respects s read) {status : Nat} {body body' : List UInt8} {v v' : Value}
    (hv : Spells body v) (hv' : Spells body' v') (h : Restates (Envelope.shape s) v v')
    (purpose : Purpose) :
    Agree (isSuccess status = false ∧ status ∉ unquoted)
      (classify purpose read ⟨status, some body⟩) (classify purpose read ⟨status, some body'⟩) := by
  rw [classify, classify]
  cases hstatus : isSuccess status with
  | true =>
      have henvelope : envelope? read ⟨status, some body⟩ = envelope? read ⟨status, some body'⟩ := by
        rw [envelope?, envelope?, Option.bind_some, Option.bind_some, read?_eq_some_iff.2 hv,
          read?_eq_some_iff.2 hv']
        exact (Envelope.respects hr).restates h
      rw [henvelope]
      exact .same _
  | false =>
      by_cases hunquoted : status ∈ unquoted
      · rw [statusError_of_unquoted hunquoted purpose (some body) (some body')]
        exact .same _
      · obtain ⟨detail, hdetail⟩ := statusError_of_quoted hunquoted purpose (some body)
        obtain ⟨detail', hdetail'⟩ := statusError_of_quoted hunquoted purpose (some body')
        rw [hdetail, hdetail']
        exact .quoted ⟨rfl, hunquoted⟩ detail detail'

/-- **Replies that restate each other mean the same**, unless they are quoted. -/
theorem RepliesRestate.agree (hr : Respects s read) {canned canned' : Canned}
    (h : RepliesRestate (Envelope.shape s) canned canned') (purpose : Purpose) (url : Url) :
    Agree (DifferInQuote canned canned')
      (Client.received purpose read (Client.arrived url canned.reply?))
      (Client.received purpose read (Client.arrived url canned'.reply?)) := by
  cases h with
  | same => exact .same _
  | @body status missing body body' v v' hv hv' h =>
      by_cases heq : body = body'
      · subst heq
        exact .same _
      rw [Canned.reply?, Canned.reply?]
      by_cases hbodiless : isBodiless status = true
      · rw [if_pos hbodiless, if_pos hbodiless]
        exact .same _
      rw [if_neg hbodiless, if_neg hbodiless]
      by_cases hmissing : missing = 0
      · rw [if_pos hmissing, if_pos hmissing]
        refine (classify_agree hr hv hv' h purpose).imp fun hquoted => ⟨fun hsame => ?_, ?_⟩
        · injection hsame with _ hbody
          exact heq hbody
        · rw [isQuoted, hquoted.1]
          simpa using hquoted.2
      · rw [if_neg hmissing, if_neg hmissing]
        exact .same _

end

/-! ### Links -/

/-- The links lead to the same host, which has received the same, and have the same log. -/
structure SameButQueue (l l' : Link) : Prop where
  host : l.host = l'.host
  requests : l.requests = l'.requests
  log : l.log = l'.log

theorem SameButQueue.noted {l l' : Link} (h : SameButQueue l l') (level : Level) (text : String) :
    SameButQueue (Client.noted l level text) (Client.noted l' level text) :=
  ⟨h.host, h.requests, congrArg (· ++ [adapterEntry level text]) h.log⟩

theorem SameButQueue.taken {l l' : Link} (h : SameButQueue l l') (request : Request) :
    SameButQueue (l.taken request) (l'.taken request) :=
  ⟨h.host, congrArg (· ++ [request]) h.requests, h.log⟩

/-- A request stays at home on both links, or it is taken on both. -/
theorem Client.transmit_both (c : Client) (d : Draft) {l l' : Link} (h : SameButQueue l l') :
    (∃ fault, c.transmit d l = (.error fault, l) ∧ c.transmit d l' = (.error fault, l')) ∨
      ∃ url request, c.transmit d l = (arrived url l.next?, l.taken request) ∧
        c.transmit d l' = (arrived url l'.next?, l'.taken request) := by
  have hreaches : ∀ url, l.reaches url = l'.reaches url := by
    intro url
    rw [Link.reaches, Link.reaches, h.host]
  rw [transmit, transmit]
  cases c.prepare d with
  | error fault => exact .inl ⟨fault, rfl, rfl⟩
  | ok p =>
      obtain ⟨url, request⟩ := p
      dsimp only
      by_cases hreach : l.reaches url = true
      · rw [Link.exchange_of_reaches hreach,
          Link.exchange_of_reaches ((hreaches url).symm.trans hreach)]
        exact .inr ⟨url, request, rfl, rfl⟩
      · rw [Link.exchange_of_not_reaches hreach,
          Link.exchange_of_not_reaches fun h' => hreach ((hreaches url).trans h')]
        exact .inl ⟨.lost url.text, rfl, rfl⟩

/-- What a draft comes to on two links whose next replies restate each other: results that agree,
and links that are still the same but for their queues.  A result that is no failure was taken from
the queues. -/
theorem Client.send_both {α β : Type} {s : Shape} {read : Value → Option α} (hr : Respects s read)
    (c : Client) (d : Draft) (purpose : Purpose) (next : α → Except Error β) {l l' : Link}
    (h : SameButQueue l l')
    (hnext : RepliesRestate (Envelope.shape s) (l.queue.headD .exhausted)
      (l'.queue.headD .exhausted)) :
    let made := (received purpose read (c.transmit d l).1).bind next
    let made' := (received purpose read (c.transmit d l').1).bind next
    Agree (DifferInQuote (l.queue.headD .exhausted) (l'.queue.headD .exhausted)) made made' ∧
      SameButQueue (c.transmit d l).2 (c.transmit d l').2 ∧
      ∀ b, made = .ok b → (c.transmit d l).2.queue = l.queue.drop 1 ∧
        (c.transmit d l').2.queue = l'.queue.drop 1 := by
  intro made made'
  rcases c.transmit_both d h with ⟨fault, hsent, hsent'⟩ | ⟨url, request, hsent, hsent'⟩
  · have hmade : made = .error (sendError purpose fault) := by
      simp only [made, hsent]
      rfl
    have hmade' : made' = .error (sendError purpose fault) := by
      simp only [made', hsent']
      rfl
    rw [hmade, hmade', hsent, hsent']
    exact ⟨.same _, h, nofun⟩
  · have hagree := (hnext.agree hr purpose url).bind next
    simp only [made, made', hsent, hsent']
    exact ⟨hagree, h.taken request, fun _ _ => ⟨rfl, rfl⟩⟩

/-! ### Updates -/

/-- The shape of an answer to a lookup. -/
def lookupShape : Shape :=
  Envelope.shape (.list (.flat RecordEntry.fields))

/-- The shape of an answer to a write. -/
def writeShape : Shape :=
  Envelope.shape (.flat RecordEntry.fields)

/-- The replies that an update may take from the queues restate each other: the first in the shape of
an answer to a lookup, the second in that of an answer to a write. -/
structure QueuesRestate (queue queue' : List Canned) : Prop where
  first : RepliesRestate lookupShape (queue.headD .exhausted) (queue'.headD .exhausted)
  second : RepliesRestate writeShape ((queue.drop 1).headD .exhausted)
    ((queue'.drop 1).headD .exhausted)

/-- One of the replies that an update may take from the queues is not the same, and is quoted. -/
def QueuesDifferInQuote (queue queue' : List Canned) : Prop :=
  DifferInQuote (queue.headD .exhausted) (queue'.headD .exhausted) ∨
    DifferInQuote ((queue.drop 1).headD .exhausted) ((queue'.drop 1).headD .exhausted)

/-- The runs of an update of a name agree: the host receives the same, the same is logged, and the
results are the same or, where that may be, failures of the same operation that quote replies. -/
structure RunsAgree (mayQuote : Prop) (name : String) (run run' : Except Error Outcome × Link) :
    Prop where
  link : SameButQueue run.2 run'.2
  result : run.1 = run'.1 ∨ mayQuote ∧ ∃ op detail detail',
    run.1 = .error (.operation op name (.provider providerName detail)) ∧
      run'.1 = .error (.operation op name (.provider providerName detail'))

theorem RunsAgree.imp {p q : Prop} {name : String} {run run' : Except Error Outcome × Link}
    (h : RunsAgree p name run run') (hpq : p → q) : RunsAgree q name run run' :=
  ⟨h.link, h.result.imp_right fun hquoted => ⟨hpq hquoted.1, hquoted.2⟩⟩

/-- What an update logs at its end keeps runs in agreement. -/
theorem runsAgree_log {mayQuote : Prop} {name zone : String} {result result' : Except Error Outcome}
    {l l' : Link} (h : RunsAgree mayQuote name (result, l) (result', l')) :
    RunsAgree mayQuote name
      (result, { l with log := l.log ++ Reconciler.entriesOf zone result })
      (result', { l' with log := l'.log ++ Reconciler.entriesOf zone result' }) := by
  refine ⟨⟨h.link.host, h.link.requests, ?_⟩, h.result⟩
  have hlog : l.log = l'.log := h.link.log
  have hentries : Reconciler.entriesOf zone result = Reconciler.entriesOf zone result' := by
    rcases h.result with heq | ⟨-, op, detail, detail', heq, heq'⟩
    · exact congrArg _ heq
    · obtain rfl : result = _ := heq
      obtain rfl : result' = _ := heq'
      rfl
  dsimp only
  rw [hlog, hentries]

/-- A failure of a write is wrapped, so runs whose writes agree do so as well. -/
theorem runsAgree_wrap {mayQuote : Prop} {name : String} {α : Type} {made made' : Except Error α}
    {k k' : Link} (hmade : Agree mayQuote made made') (hk : SameButQueue k k')
    {wrap : Except Error α → Except Error Outcome} {op : Operation}
    (hwrap : ∀ e, wrap (.error e) = .error (e.during op name)) :
    RunsAgree mayQuote name (wrap made, k) (wrap made', k') := by
  refine ⟨hk, ?_⟩
  cases hmade with
  | same => exact .inl rfl
  | quoted h detail detail' => exact .inr ⟨h, op, detail, detail', hwrap _, hwrap _⟩

section

variable (c : Client) {l l' : Link} (h : SameButQueue l l')

include h

/-- The lookups of two runs. -/
theorem listRecords_both (zoneId name : String)
    (hfirst : RepliesRestate lookupShape (l.queue.headD .exhausted) (l'.queue.headD .exhausted)) :
    ∃ x x' k k', (Session.providerOf c).listRecords zoneId .a name l = (x, k) ∧
      (Session.providerOf c).listRecords zoneId .a name l' = (x', k') ∧
      Agree (DifferInQuote (l.queue.headD .exhausted) (l'.queue.headD .exhausted)) x x' ∧
      SameButQueue k k' ∧ ∀ rs, x = .ok rs → k.queue = l.queue.drop 1 ∧ k'.queue = l'.queue.drop 1 :=
  ⟨_, _, _, _, c.listRecords_eq l zoneId .a name, c.listRecords_eq l' zoneId .a name,
    c.send_both RecordEntry.respects.list (.records zoneId .a name) .recordLookup
      RecordEntry.toRecords (h.noted .debug _) hfirst⟩

/-- The writes of two runs, each of them announced or sent. -/
theorem write_both {act : StateM Link (Except Error Record)}
    (hact : (∃ r level text, ∀ l, act l = (.ok r, Client.noted l level text)) ∨
      ∃ d purpose, ∀ l, act l =
        ((Client.received purpose RecordEntry.ofJson? (c.transmit d l).1).bind RecordEntry.toRecord,
          (c.transmit d l).2))
    (hnext : RepliesRestate writeShape (l.queue.headD .exhausted) (l'.queue.headD .exhausted)) :
    Agree (DifferInQuote (l.queue.headD .exhausted) (l'.queue.headD .exhausted)) (act l).1
        (act l').1 ∧
      SameButQueue (act l).2 (act l').2 := by
  rcases hact with ⟨r, level, text, hact⟩ | ⟨d, purpose, hact⟩
  · rw [hact, hact]
    exact ⟨.same _, h.noted level text⟩
  · have hsend := c.send_both RecordEntry.respects d purpose RecordEntry.toRecord h hnext
    rw [hact, hact]
    exact ⟨hsend.1, hsend.2.1⟩

end

/-- A creation is announced or sent. -/
theorem createRecord_announced_or_sent (c : Client) (zoneId : String) (payload : Payload) :
    (∃ r level text, ∀ l, c.createRecord Link.exchange Link.write zoneId payload l =
        (.ok r, Client.noted l level text)) ∨
      ∃ d purpose, ∀ l, c.createRecord Link.exchange Link.write zoneId payload l =
        ((Client.received purpose RecordEntry.ofJson? (c.transmit d l).1).bind RecordEntry.toRecord,
          (c.transmit d l).2) := by
  cases hc : c.dryRun with
  | true => exact .inl ⟨_, _, _, fun l => c.createRecord_of_dryRun (l := l) hc zoneId payload⟩
  | false => exact .inr ⟨_, _, fun l => Client.createRecord_of_live l hc zoneId payload⟩

/-- A replacement is announced or sent. -/
theorem updateRecord_announced_or_sent (c : Client) (zoneId recordId : String) (payload : Payload) :
    (∃ r level text, ∀ l, c.updateRecord Link.exchange Link.write zoneId recordId payload l =
        (.ok r, Client.noted l level text)) ∨
      ∃ d purpose, ∀ l, c.updateRecord Link.exchange Link.write zoneId recordId payload l =
        ((Client.received purpose RecordEntry.ofJson? (c.transmit d l).1).bind RecordEntry.toRecord,
          (c.transmit d l).2) := by
  cases hc : c.dryRun with
  | true =>
      exact .inl ⟨_, _, _, fun l => Client.updateRecord_of_dryRun (l := l) hc zoneId recordId payload⟩
  | false =>
      exact .inr ⟨_, _, fun l => Client.updateRecord_of_live l hc zoneId recordId payload⟩

/-- Runs whose lookups list the same records agree, if the replies that are next restate each
other. -/
theorem update_agrees_of_records (c : Client) {zone : Zone} {name : String} (address : Address)
    (ttl : Int32) {l l' k k' : Link} {rs : List Record}
    (hz : zone.name.toList <:+ (RecordName.complete name).toList)
    (hl : (Session.providerOf c).listRecords zone.id .a (RecordName.complete name) l = (.ok rs, k))
    (hl' : (Session.providerOf c).listRecords zone.id .a (RecordName.complete name) l' =
      (.ok rs, k')) (hk : SameButQueue k k')
    (hnext : RepliesRestate writeShape (k.queue.headD .exhausted) (k'.queue.headD .exhausted)) :
    RunsAgree (DifferInQuote (k.queue.headD .exhausted) (k'.queue.headD .exhausted))
      (RecordName.complete name) ((reconcilerOf c zone).update name address ttl l)
      ((reconcilerOf c zone).update name address ttl l') := by
  cases rs with
  | nil =>
      obtain ⟨hmade, hlinks⟩ := write_both c hk (createRecord_announced_or_sent c zone.id
        ⟨.a, RecordName.complete name, address.text, effectiveTtl ttl⟩) hnext
      rw [update_of_create hz hl rfl, update_of_create hz hl' rfl]
      exact runsAgree_log (runsAgree_wrap hmade hlinks fun _ => rfl)
  | cons existing more =>
      by_cases hcontent : existing.content = address.text
      · rw [update_of_course (.unchanged hz hl hcontent),
          update_of_course (.unchanged hz hl' hcontent)]
        exact runsAgree_log ⟨hk, .inl rfl⟩
      · obtain ⟨hmade, hlinks⟩ := write_both c hk (updateRecord_announced_or_sent c zone.id
          existing.id ⟨.a, RecordName.complete name, address.text, effectiveTtl ttl⟩) hnext
        rw [update_of_replace hz hl hcontent rfl, update_of_replace hz hl' hcontent rfl]
        exact runsAgree_log (runsAgree_wrap hmade hlinks fun _ => rfl)

/-- **An update agrees on queues that restate each other.** -/
theorem update_agrees (c : Client) (zone : Zone) (name : String) (address : Address) (ttl : Int32)
    {l l' : Link} (h : SameButQueue l l') (hqueue : QueuesRestate l.queue l'.queue) :
    RunsAgree (QueuesDifferInQuote l.queue l'.queue) (RecordName.complete name)
      ((reconcilerOf c zone).update name address ttl l)
      ((reconcilerOf c zone).update name address ttl l') := by
  by_cases hz : zone.name.toList <:+ (RecordName.complete name).toList
  · obtain ⟨x, x', k, k', hl, hl', hx, hk, htaken⟩ :=
      listRecords_both c h zone.id (RecordName.complete name) hqueue.first
    cases hx with
    | quoted hquote detail detail' =>
        rw [update_of_course (.lookupFailed hz hl), update_of_course (.lookupFailed hz hl')]
        exact runsAgree_log ⟨hk, .inr ⟨.inl hquote, .fetch, detail, detail', rfl, rfl⟩⟩
    | same =>
        cases x with
        | error e =>
            rw [update_of_course (.lookupFailed hz hl), update_of_course (.lookupFailed hz hl')]
            exact runsAgree_log ⟨hk, .inl rfl⟩
        | ok rs =>
            -- the lookup has taken the first reply of each queue
            obtain ⟨hrest, hrest'⟩ := htaken rs rfl
            have hsecond := hqueue.second
            rw [← hrest, ← hrest'] at hsecond
            have hagree := update_agrees_of_records c address ttl hz hl hl' hk hsecond
            rw [hrest, hrest'] at hagree
            exact hagree.imp .inr
  · rw [update_of_course (.outsideZone hz), update_of_course (.outsideZone hz)]
    exact runsAgree_log ⟨h, .inl rfl⟩

/-! ### Every reader -/

/-- The bytes of a text. -/
def textBytes (text : String) : List UInt8 :=
  Utf8.encode text.toList

/-- **Members are read by their names.**  What is read from a text as settings, as a record or a
payload, or as an envelope around zones, records or one record, is read from every text that spells
the same value or one that restates it: with other white space, with the members of any of these
objects in another order, and with more members of other names, whatever their values are, as long
as their keys are texts.  A text is refused in which a field of any of these objects is given twice,
or a key of one is no text.  On queues whose replies restate each other in this way an update sends
the same requests, logs the same, and has the same result, but for failures that quote replies. -/
theorem members_are_read_by_name :
    (ReadsByName textBytes (.flat Settings.fields) (readText? Settings.ofJson?) ∧
      ReadsByName textBytes (.flat Record.fields) (readText? Record.ofJson?) ∧
      ReadsByName textBytes (.flat Payload.fields) (readText? Payload.ofJson?)) ∧
    (∀ status : Nat,
      ReadsByName id (Envelope.shape (.list (.flat ZoneEntry.fields)))
          (fun body => envelope? (Value.list? ZoneEntry.ofJson?) ⟨status, some body⟩) ∧
        ReadsByName id (Envelope.shape (.list (.flat RecordEntry.fields)))
          (fun body => envelope? (Value.list? RecordEntry.ofJson?) ⟨status, some body⟩) ∧
        ReadsByName id (Envelope.shape (.flat RecordEntry.fields))
          (fun body => envelope? RecordEntry.ofJson? ⟨status, some body⟩)) ∧
    ∀ (c : Client) (zone : Zone) (name : String) (address : Address) (ttl : Int32)
      (host : Option WebOrigin) (queue queue' : List Canned), QueuesRestate queue queue' →
      let run := (reconcilerOf c zone).update name address ttl { host, queue }
      let run' := (reconcilerOf c zone).update name address ttl { host, queue := queue' }
      run.2.requests = run'.2.requests ∧ run.2.log = run'.2.log ∧
        (run.1 = run'.1 ∨ QueuesDifferInQuote queue queue' ∧ ∃ op detail detail',
          run.1 =
              .error (.operation op (RecordName.complete name) (.provider providerName detail)) ∧
            run'.1 =
              .error (.operation op (RecordName.complete name) (.provider providerName detail'))) := by
  refine ⟨⟨Settings.respects.readsByName _, Record.respects.readsByName _,
    Payload.respects.readsByName _⟩, fun status => ⟨?_, ?_, ?_⟩, ?_⟩
  · exact (Envelope.respects ZoneEntry.respects.list).readsByName id
  · exact (Envelope.respects RecordEntry.respects.list).readsByName id
  · exact (Envelope.respects RecordEntry.respects).readsByName id
  · intro c zone name address ttl host queue queue' hqueue
    have hlinks : SameButQueue { host, queue } { host, queue := queue' } := ⟨rfl, rfl, rfl⟩
    have hagree := update_agrees c zone name address ttl hlinks hqueue
    exact ⟨hagree.link.requests, hagree.link.log, hagree.result⟩

/-- A reply with its members in another order, and with one more in its record, leaves a record as
it is just as the plain reply does. -/
theorem foreign_member_is_skipped :
    let c : Client := ⟨"secret", "http://127.0.0.1:8080", false⟩
    let record := "\"id\":\"rec-1\",\"type\":\"A\",\"name\":\"www.example.com\"," ++
      "\"content\":\"5.6.7.8\",\"ttl\":60"
    let queue := fun body : String => [Canned.reply 200 (textBytes body) 0]
    let run := fun body => (reconcilerOf c ⟨"zone-123", "example.com"⟩).update "www.example.com"
      ⟨5, 6, 7, 8⟩ 300 { host := some "127.0.0.1:8080".toList, queue := queue body }
    let plain := "\x7b\"success\":true,\"result\":[\x7b" ++ record ++ "\x7d]\x7d"
    let other := "\x7b\"result\": [\x7b" ++ record ++ ",\"tags\":[null]\x7d],\"success\":true\x7d"
    QueuesRestate (queue plain) (queue other) ∧ (run plain).1 = (run other).1 ∧
      (run plain).1 = .ok (.unchanged "www.example.com" ⟨5, 6, 7, 8⟩) := by
  intro c record queue run plain other
  let members : List (Option String × Value) :=
    [(some "id", .string (some "rec-1")), (some "type", .string (some "A")),
      (some "name", .string (some "www.example.com")), (some "content", .string (some "5.6.7.8")),
      (some "ttl", .number ['6', '0'])]
  let tags : Option String × Value := (some "tags", .array [.null])
  let success : Option String × Value := (some "success", .bool true)
  have hplain : Spells (textBytes plain)
      (.object [success, (some "result", .array [.object members])]) :=
    words_of_tokens? (by decide +kernel)
  have hother : Spells (textBytes other)
      (.object [(some "result", .array [.object (members ++ [tags])]), success]) :=
    words_of_tokens? (by decide +kernel)
  have htags : Edit (.flat RecordEntry.fields) (.object members) (.object (members ++ [tags])) := by
    have hinsert : Edit (.flat RecordEntry.fields) (.object (members ++ []))
        (.object (members ++ tags :: [])) := .insert (by decide)
    rwa [List.append_nil] at hinsert
  have hresult : Edit lookupShape (.object [success, (some "result", .array [.object members])])
      (.object [success, (some "result", .array [.object (members ++ [tags])])]) :=
    @Edit.member _ _ [success] [] "result" _ _ (@Edit.item _ [] [] _ _ htags)
  -- there is no second reply
  have hnone : ∀ body, ((queue body).drop 1).headD .exhausted = .exhausted := fun _ => rfl
  have hqueue : QueuesRestate (queue plain) (queue other) := by
    refine ⟨.body hplain hother
      (.trans _ _ _ (.rel _ _ hresult) (.rel _ _ (.permute (.swap _ _ _)))), ?_⟩
    rw [hnone, hnone]
    exact .same _
  have hquote : ¬ QueuesDifferInQuote (queue plain) (queue other) := by
    rw [QueuesDifferInQuote, hnone, hnone]
    rintro (⟨-, hquoted⟩ | ⟨hne, -⟩)
    · cases hquoted
    · exact hne rfl
  have hagree := (members_are_read_by_name.2.2 c ⟨"zone-123", "example.com"⟩ "www.example.com"
    ⟨5, 6, 7, 8⟩ 300 (some "127.0.0.1:8080".toList) _ _ hqueue).2.2
  exact ⟨hqueue, hagree.resolve_right fun h => hquote h.1, by decide +kernel⟩

/-- **Texts that are told apart.**  A record is read from a text, but not from the text with one more
member in front, whose key is half of a surrogate pair.  And a failure that quotes a reply quotes its
white space. -/
theorem texts_are_told_apart :
    let record := "\"id\":\"rec-1\",\"type\":\"A\",\"name\":\"www.example.com\"," ++
      "\"content\":\"5.6.7.8\",\"ttl\":60\x7d"
    let c : Client := ⟨"secret", "http://127.0.0.1:8080", false⟩
    let run := fun body => (reconcilerOf c ⟨"zone-123", "example.com"⟩).update "www.example.com"
      ⟨5, 6, 7, 8⟩ 300
      { host := some "127.0.0.1:8080".toList, queue := [.reply 500 (textBytes body) 0] }
    (readText? Record.ofJson? ("\x7b" ++ record) =
          some ⟨"rec-1", .a, "www.example.com", "5.6.7.8", 60⟩ ∧
        readText? Record.ofJson? ("\x7b\"\\ud800\":0," ++ record) = none ∧
        ∃ members, Spells (textBytes ("\x7b" ++ record)) (.object members) ∧
          Spells (textBytes ("\x7b\"\\ud800\":0," ++ record))
            (.object ((none, .number ['0']) :: members))) ∧
      (∃ v, Spells (textBytes "\x7b\"success\":false\x7d") v ∧
        Spells (textBytes "\x7b \"success\": false \x7d") v) ∧
      (run "\x7b\"success\":false\x7d").1 ≠ (run "\x7b \"success\": false \x7d").1 := by
  intro record c run
  let members : List (Option String × Value) :=
    [(some "id", .string (some "rec-1")), (some "type", .string (some "A")),
      (some "name", .string (some "www.example.com")), (some "content", .string (some "5.6.7.8")),
      (some "ttl", .number ['6', '0'])]
  have hkey : ∃ members, Spells (textBytes ("\x7b" ++ record)) (.object members) ∧
      Spells (textBytes ("\x7b\"\\ud800\":0," ++ record))
        (.object ((none, .number ['0']) :: members)) :=
    ⟨members, words_of_tokens? (by decide +kernel), words_of_tokens? (by decide +kernel)⟩
  have hspace : ∃ v, Spells (textBytes "\x7b\"success\":false\x7d") v ∧
      Spells (textBytes "\x7b \"success\": false \x7d") v :=
    ⟨.object [(some "success", .bool false)], words_of_tokens? (by decide +kernel),
      words_of_tokens? (by decide +kernel)⟩
  exact ⟨⟨by decide +kernel, by decide +kernel, hkey⟩, hspace, by decide +kernel⟩

end ZoneKeeper.Cloudflare
