/-
**Calls over a link.**

The four operations of a client differ in their drafts and in how they read a reply, and in nothing
else: each transmits one draft and takes what comes back for its answer.  So a call over a link is
said here once, for all operations, with the log of the adapter beside it.  Only the writes of a
dry run are different, which are announced and not transmitted.

Main definitions:

* `ZoneKeeper.Cloudflare.Draft.ofCall` — the draft of a call;
* `ZoneKeeper.Cloudflare.Client.decode` — what a transmission means to the one who called;
* `ZoneKeeper.Entry.announcesWrite` — an entry announces a write that is not sent.

Main results:

* `ZoneKeeper.Cloudflare.Client.perform_sent` — **a call is its draft, transmitted and decoded**;
* `ZoneKeeper.Cloudflare.Client.perform_cases` — it is taken by the host, or it stays at home, which
  is a failure of HTTP;
* `ZoneKeeper.Cloudflare.Client.perform_of_fits`,
  `ZoneKeeper.Cloudflare.Client.perform_of_not_fits` — which of the two, at the host of the base;
* `ZoneKeeper.Cloudflare.Client.perform_dryRun` — a write of a dry run is announced and answered.
-/

import ZoneKeeper.Proofs.Cloudflare.Gating
import ZoneKeeper.Proofs.Dialogue

set_option autoImplicit false

namespace ZoneKeeper

open ZoneKeeper.Http ZoneKeeper.Json ZoneKeeper.Text

/-- The entry announces a write that is not sent. -/
def Entry.announcesWrite (e : Entry) : Bool :=
  e.level == .info && e.origin == .adapter &&
    "[DRY-RUN] Would send ".toList.isPrefixOf e.text.toList

theorem Entry.announcesWrite_of_debug {e : Entry} (h : e.level = .debug) :
    e.announcesWrite = false := by
  rw [announcesWrite, h]
  rfl

namespace Cloudflare

/-- The draft of a call. -/
def Draft.ofCall : Call → Draft
  | .resolveZone zone => .zones zone
  | .listRecords zoneId type name => .records zoneId type name
  | .createRecord zoneId payload => .create zoneId payload
  | .updateRecord zoneId recordId payload => .update zoneId recordId payload

theorem Draft.isRooted_ofCall (call : Call) : (Draft.ofCall call).IsRooted := by
  cases call with
  | resolveZone zone =>
      exact ⟨"zones".toList, (by decide : "/zones".toList = '/' :: "zones".toList)⟩
  | listRecords zoneId type name => exact isRooted_records zoneId type name
  | createRecord zoneId payload => exact isRooted_create zoneId payload
  | updateRecord zoneId recordId payload => exact isRooted_update zoneId recordId payload

/-- A draft writes exactly if the call does. -/
theorem Draft.isWrite_ofCall (call : Call) : (Draft.ofCall call).method.isWrite = call.isWrite := by
  cases call with
  | _ => rfl

/-- The first zone that is listed is the one that was asked for. -/
def firstZone (zone : String) : List ZoneEntry → Except Error String
  | [] => .error (.notFound ("Zone not found: " ++ zone))
  | entry :: _ => .ok entry.id

namespace Client

open Session (providerOf)

/-- What comes of a call's transmission, to the one who called. -/
def decode : Call → Except SendFault Reply → Except Error Answer
  | .resolveZone zone, sent =>
      ((received .zoneLookup (Value.list? ZoneEntry.ofJson?) sent).bind
        (firstZone zone)).map .zoneId
  | .listRecords _ _ _, sent =>
      ((received .recordLookup (Value.list? RecordEntry.ofJson?) sent).bind
        RecordEntry.toRecords).map .records
  | .createRecord _ _, sent =>
      ((received .recordCreate RecordEntry.ofJson? sent).bind RecordEntry.toRecord).map .record
  | .updateRecord _ _ _, sent =>
      ((received .recordUpdate RecordEntry.ofJson? sent).bind RecordEntry.toRecord).map .record

/-- A call that was not answered is a failure of HTTP. -/
theorem decode_error (call : Call) (fault : SendFault) :
    ∃ detail, decode call (.error fault) = .error (.http detail) := by
  cases call with
  | _ => exact ⟨_, rfl⟩

/-! ### Transmitting a call -/

/-- What is logged has no part in a transmission. -/
theorem transmit_withLog (c : Client) (d : Draft) (l : Link) (entries : List Entry) :
    c.transmit d { l with log := entries } =
      ((c.transmit d l).1, { (c.transmit d l).2 with log := entries }) := by
  rw [transmit, transmit]
  cases c.prepare d with
  | error fault => rfl
  | ok p =>
      obtain ⟨url, request⟩ := p
      dsimp only
      by_cases h : l.reaches url = true
      · have h' : Link.reaches { l with log := entries } url = true := h
        rw [Link.exchange_of_reaches h, Link.exchange_of_reaches h']
        rfl
      · have h' : ¬ Link.reaches { l with log := entries } url = true := h
        rw [Link.exchange_of_not_reaches h, Link.exchange_of_not_reaches h']

theorem transmit_noted (c : Client) (d : Draft) (l : Link) (level : Level) (text : String) :
    c.transmit d (noted l level text) = ((c.transmit d l).1,
      { (c.transmit d l).2 with log := l.log ++ [adapterEntry level text] }) :=
  c.transmit_withLog d l _

/-- A transmission logs nothing. -/
theorem log_transmit (c : Client) (d : Draft) (l : Link) : (c.transmit d l).2.log = l.log := by
  obtain ⟨fault, h⟩ | ⟨url, -, -, h⟩ := c.transmit_cases d l
  · rw [h]
  · rw [h]
    rfl

theorem forall_debug_singleton (text : String) :
    ∀ e ∈ [adapterEntry .debug text], e.level = .debug :=
  List.forall_mem_singleton.2 rfl

/-- **A call is its draft, transmitted and decoded**, unless it is a write of a dry run.  What is
logged on the way is for debugging. -/
theorem perform_sent {c : Client} {call : Call} (h : c.dryRun = false ∨ call.isWrite = false)
    (l : Link) :
    ∃ entries : List Entry, (∀ e ∈ entries, e.level = .debug) ∧
      (providerOf c).perform call l =
        (decode call (c.transmit (.ofCall call) l).1,
          { (c.transmit (.ofCall call) l).2 with log := l.log ++ entries }) := by
  cases call with
  | resolveZone zone =>
      change ∃ entries : List Entry, _ ∧
        ((c.resolveZone Link.exchange Link.write zone l).1.map Answer.zoneId,
          (c.resolveZone Link.exchange Link.write zone l).2) = _
      rw [resolveZone_eq, transmit_noted]
      dsimp only
      rw [decode, Draft.ofCall]
      cases received .zoneLookup (Value.list? ZoneEntry.ofJson?) (c.transmit (.zones zone) l).1 with
      | error e => exact ⟨_, forall_debug_singleton _, rfl⟩
      | ok entries =>
          cases entries with
          | nil => exact ⟨_, forall_debug_singleton _, rfl⟩
          | cons entry rest =>
              refine ⟨[adapterEntry .debug ("Looking up zone ID for domain: " ++ zone),
                adapterEntry .debug ("Found zone ID: " ++ entry.id)],
                List.forall_mem_cons.2 ⟨rfl, forall_debug_singleton _⟩, ?_⟩
              dsimp only [noted]
              rw [List.append_assoc]
              rfl
  | listRecords zoneId type name =>
      change ∃ entries : List Entry, _ ∧
        ((c.listRecords Link.exchange Link.write zoneId type name l).1.map Answer.records,
          (c.listRecords Link.exchange Link.write zoneId type name l).2) = _
      rw [listRecords_eq, transmit_noted]
      exact ⟨_, forall_debug_singleton _, rfl⟩
  | createRecord zoneId payload =>
      have hlive : c.dryRun = false := h.resolve_right (by simp [Call.isWrite])
      refine ⟨[], List.forall_mem_nil _, ?_⟩
      change ((c.createRecord Link.exchange Link.write zoneId payload l).1.map Answer.record,
        (c.createRecord Link.exchange Link.write zoneId payload l).2) = _
      rw [createRecord_of_live l hlive, List.append_nil, ← log_transmit]
      rfl
  | updateRecord zoneId recordId payload =>
      have hlive : c.dryRun = false := h.resolve_right (by simp [Call.isWrite])
      refine ⟨[], List.forall_mem_nil _, ?_⟩
      change ((c.updateRecord Link.exchange Link.write zoneId recordId payload l).1.map
        Answer.record, (c.updateRecord Link.exchange Link.write zoneId recordId payload l).2) = _
      rw [updateRecord_of_live l hlive, List.append_nil, ← log_transmit]
      rfl

/-- **A call stays at home, which is a failure of HTTP, or it is taken and the next reply is its
answer.** -/
theorem perform_cases {c : Client} {call : Call} (h : c.dryRun = false ∨ call.isWrite = false)
    (l : Link) :
    ∃ entries : List Entry, (∀ e ∈ entries, e.level = .debug) ∧
      ((∃ detail, (providerOf c).perform call l =
          (.error (.http detail), { l with log := l.log ++ entries })) ∨
        ∃ url, c.address? (.ofCall call) = some url ∧
          (providerOf c).perform call l =
            (decode call (arrived url l.next?),
              { l.taken (c.requestAt (.ofCall call) url) with log := l.log ++ entries })) := by
  obtain ⟨entries, hdebug, hperform⟩ := perform_sent h l
  refine ⟨entries, hdebug, ?_⟩
  rw [hperform]
  obtain ⟨fault, hsent⟩ | ⟨url, hprepare, -, hsent⟩ := c.transmit_cases (.ofCall call) l
  · obtain ⟨detail, hdetail⟩ := decode_error call fault
    exact .inl ⟨detail, by rw [hsent, hdetail]⟩
  · exact .inr ⟨url, (of_prepare_eq_ok hprepare).1, by rw [hsent]⟩

/-- A write of a dry run is announced and answered. -/
theorem perform_dryRun {c : Client} {call : Call} (hc : c.dryRun = true)
    (hw : call.isWrite = true) (l : Link) :
    ∃ a entry, Entry.announcesWrite entry = true ∧
      (providerOf c).perform call l = (.ok a, { l with log := l.log ++ [entry] }) := by
  have hprefix : ∀ text, Entry.announcesWrite
      (adapterEntry .info ("[DRY-RUN] Would send " ++ text)) = true := by
    intro text
    change List.isPrefixOf _ ("[DRY-RUN] Would send " ++ text).toList = true
    rw [String.toList_append, List.isPrefixOf_iff_prefix]
    exact List.prefix_append _ _
  cases call with
  | resolveZone zone | listRecords zoneId type name => cases hw
  | createRecord zoneId payload =>
      refine ⟨.record (payload.toRecord "dry-run"), _, hprefix ("POST to zone " ++ zoneId ++
        " with payload: " ++ payloadText payload), ?_⟩
      refine (Provider.perform_createRecord_iff.2
        (createRecord_of_dryRun l hc zoneId payload)).trans ?_
      simp only [noted, ← String.append_assoc]
      rfl
  | updateRecord zoneId recordId payload =>
      refine ⟨.record (payload.toRecord recordId), _, hprefix ("PATCH for record " ++ recordId ++
        " with payload: " ++ payloadText payload), ?_⟩
      refine (Provider.perform_updateRecord_iff.2
        (updateRecord_of_dryRun l hc zoneId recordId payload)).trans ?_
      simp only [noted, ← String.append_assoc]
      rfl

/-! ### Calls at the host of the base -/

section

variable {c : Client} {host : WebOrigin} (hc : c.SendsTo host) {call : Call}
  (h : c.dryRun = false ∨ call.isWrite = false) {l : Link}

include hc h

/-- A call whose address fits is taken. -/
theorem perform_of_fits (hl : l.host = some host) (hf : c.Fits (.ofCall call)) :
    ∃ url entries, c.address? (.ofCall call) = some url ∧
      (providerOf c).perform call l =
        (decode call (arrived url l.next?),
          { l.taken (c.requestAt (.ofCall call) url) with log := l.log ++ entries }) := by
  obtain ⟨url, hurl, hsent⟩ :=
    (hc.directs (Draft.isRooted_ofCall call)).transmit_of_fits hl hf
  obtain ⟨entries, -, hperform⟩ := perform_sent h l
  exact ⟨url, entries, hurl, by rw [hperform, hsent]⟩

/-- A call whose address does not fit stays at home and fails. -/
theorem perform_of_not_fits (hf : ¬ c.Fits (.ofCall call)) :
    ∃ e entries, (providerOf c).perform call l =
      (.error e, { l with log := l.log ++ entries }) := by
  obtain ⟨url, -, hsent⟩ :=
    (hc.directs (Draft.isRooted_ofCall call)).transmit_of_not_fits (l := l) hf
  obtain ⟨entries, -, hperform⟩ := perform_sent h l
  obtain ⟨detail, hdetail⟩ := decode_error call (.refused url.text)
  exact ⟨_, entries, by rw [hperform, hsent, hdetail]⟩

end

end Client

end Cloudflare

end ZoneKeeper
