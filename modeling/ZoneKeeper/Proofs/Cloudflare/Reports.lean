/-
**Failures that the provider reports.**

A reply whose status is a success can still report a failure, with messages that say why.  The
messages reach the one who called only if the reply can be read as an answer to the call: whether
there is an answer is looked at after the whole envelope has been read.  So a report around a result
of another shape, such as an empty list where a record was asked for, is told as a reply that cannot
be read, and its messages are lost.

Main definitions:

* `ZoneKeeper.Cloudflare.Purpose.ofCall` — what a call is for;
* `ZoneKeeper.Cloudflare.DecodesFor` — nothing keeps a reply from being read as one to the call.

Main results:

* `ZoneKeeper.Cloudflare.classify_of_decodes`, `ZoneKeeper.Cloudflare.classify_of_not_decodes` — what
  becomes of a report in the two cases;
* `ZoneKeeper.Cloudflare.reported_messages_are_told_iff` — **when the messages of a reported failure
  are told**.
-/

import ZoneKeeper.Proofs.Cloudflare.Envelope
import ZoneKeeper.Proofs.Cloudflare.Verdicts

set_option autoImplicit false

namespace ZoneKeeper.Cloudflare

open ZoneKeeper.Http ZoneKeeper.Json ZoneKeeper.Text

/-! ### Messages in one line -/

/-- The failure of a reply that cannot be read. -/
def unreadable : String :=
  "Failed to parse response: error decoding response body"

/-- Messages in one line begin with the bracket around the code of the first. -/
theorem head?_describeMessages {messages : List Message} (h : messages ≠ []) :
    (describeMessages messages).toList.head? = some '[' := by
  cases messages with
  | nil => exact absurd rfl h
  | cons m rest =>
      rw [describeMessages, if_neg h, List.map_cons, Message.line, String.append_assoc,
        String.append_assoc, String.intercalate_cons_append, String.toList_append]
      rfl

/-- No messages are told as a reply that cannot be read is. -/
theorem describeMessages_ne_unreadable (messages : List Message) :
    describeMessages messages ≠ unreadable := by
  intro h
  by_cases hnil : messages = []
  · rw [hnil] at h
    revert h
    decide
  · have hhead := head?_describeMessages hnil
    rw [h] at hhead
    revert hhead
    decide

theorem reported_inj {purpose : Purpose} {detail detail' : String} :
    reported purpose detail = reported purpose detail' ↔ detail = detail' := by
  rw [reported, reported, Error.provider.injEq, String.append_right_inj]
  exact and_iff_right rfl

/-! ### Reports -/

section

variable {α : Type} {read : Value → Option α} {reply : Reply}
  {members : List (Option String × Value)} {messages : List Message}
  (hs : isSuccess reply.status = true) (hbody : reply.body.bind read? = some (.object members))
  (hreports : ReportsFailure members messages)

include hs hbody hreports

/-- A report that can be read fails the call with its messages. -/
theorem classify_of_decodes (purpose : Purpose) (h : Decodes read members) :
    classify purpose read reply = .error (reported purpose (describeMessages messages)) := by
  obtain ⟨e, he⟩ := Option.isSome_iff_exists.1 (hreports.ofJson?_isSome_iff.2 h)
  obtain ⟨hfailed, herrors, -⟩ := hreports.eq_of_ofJson? he
  have henvelope : envelope? read reply = some e := by rw [envelope?, hbody, Option.bind_some, he]
  rw [classify, hs, henvelope]
  change e.outcome purpose = _
  rw [Envelope.outcome, hfailed, herrors]
  rfl

/-- A report that cannot be read fails the call as any other reply that cannot be. -/
theorem classify_of_not_decodes (purpose : Purpose) (h : ¬ Decodes read members) :
    classify purpose read reply = .error (reported purpose unreadable) := by
  have henvelope : envelope? read reply = none := by
    rw [envelope?, hbody, Option.bind_some, ← Option.not_isSome_iff_eq_none,
      hreports.ofJson?_isSome_iff]
    exact h
  rw [classify, hs, henvelope]
  rfl

end

/-! ### Calls -/

/-- What a call is for. -/
def Purpose.ofCall : Call → Purpose
  | .resolveZone _ => .zoneLookup
  | .listRecords _ _ _ => .recordLookup
  | .createRecord _ _ => .recordCreate
  | .updateRecord _ _ _ => .recordUpdate

/-- Nothing but its report keeps a reply from being read as one to the call: a lookup takes a list for
its result, and a write takes a record. -/
def DecodesFor (call : Call) (members : List (Option String × Value)) : Prop :=
  match call with
  | .resolveZone _ => Decodes (Value.list? ZoneEntry.ofJson?) members
  | .listRecords _ _ _ => Decodes (Value.list? RecordEntry.ofJson?) members
  | .createRecord _ _ | .updateRecord _ _ _ => Decodes RecordEntry.ofJson? members

/-- A call whose request the host receives is what its reply means to it. -/
theorem Client.fst_perform_of_sent {c : Client} {call : Call} {l : Link} {reply : Reply}
    (h : c.dryRun = false ∨ call.isWrite = false) (hreply : l.next? = some reply)
    (hsent : ((Session.providerOf c).perform call l).2.requests ≠ l.requests) :
    ((Session.providerOf c).perform call l).1 = decode call (.ok reply) := by
  obtain ⟨entries, -, ⟨detail, hfailed⟩ | ⟨url, -, htaken⟩⟩ := perform_cases h l
  · rw [hfailed] at hsent
    exact absurd rfl hsent
  · rw [htaken, hreply]
    rfl

section

variable {reply : Reply} {members : List (Option String × Value)} {messages : List Message}
  (hs : isSuccess reply.status = true) (hbody : reply.body.bind read? = some (.object members))
  (hreports : ReportsFailure members messages)

include hs hbody hreports

theorem Client.decode_of_decodes {call : Call} (h : DecodesFor call members) :
    decode call (.ok reply) =
      .error (reported (.ofCall call) (describeMessages messages)) := by
  cases call with
  | resolveZone zone | listRecords zoneId type name | createRecord zoneId payload
  | updateRecord zoneId recordId payload =>
      rw [decode, received, classify_of_decodes hs hbody hreports _ h]
      rfl

theorem Client.decode_of_not_decodes {call : Call} (h : ¬ DecodesFor call members) :
    decode call (.ok reply) = .error (reported (.ofCall call) unreadable) := by
  cases call with
  | resolveZone zone | listRecords zoneId type name | createRecord zoneId payload
  | updateRecord zoneId recordId payload =>
      rw [decode, received, classify_of_not_decodes hs hbody hreports _ h]
      rfl

/-- **When the messages of a reported failure are told.**  Take a call that is no write of a dry run
and whose request the host receives, and a reply to it whose status is a success and whose body is an
object that reports a failure with messages.  Then the call fails with these messages exactly if
nothing else in the body keeps it from being read as a reply to the call; otherwise it fails as if
there were no report in the body. -/
theorem reported_messages_are_told_iff (c : Client) (call : Call) (l : Link)
    (h : c.dryRun = false ∨ call.isWrite = false) (hreply : l.next? = some reply)
    (hsent : ((Session.providerOf c).perform call l).2.requests ≠ l.requests) :
    let made := (Session.providerOf c).perform call l
    (made.1 = .error (reported (.ofCall call) (describeMessages messages)) ↔
        DecodesFor call members) ∧
      (¬ DecodesFor call members → made.1 = .error (reported (.ofCall call) unreadable)) := by
  intro made
  have hmade : made.1 = Client.decode call (.ok reply) := Client.fst_perform_of_sent h hreply hsent
  rw [hmade]
  refine ⟨⟨fun htold => ?_, fun hdecodes => ?_⟩, fun hnot => ?_⟩
  · by_contra hnot
    rw [Client.decode_of_not_decodes hs hbody hreports hnot, Except.error.injEq, reported_inj] at htold
    exact describeMessages_ne_unreadable messages htold.symm
  · exact Client.decode_of_decodes hs hbody hreports hdecodes
  · exact Client.decode_of_not_decodes hs hbody hreports hnot

end

/-! ### Written reports -/

/-- The reply that reports a failure with written items around a written result. -/
def failure (items : List (List Char)) (result : List Char) : Canned :=
  .reply 200 (Utf8.encode (writeObject
    [("success", writeBool false), ("errors", writeArray items), ("result", result)])) 0

/-- The members of a written report. -/
def failureMembers (items : List Value) (result : Value) : List (Option String × Value) :=
  [(some "success", .bool false), (some "errors", .array items), (some "result", result)]

/-- A written report is read back. -/
theorem reply?_failure {items : List (List Char)} {vs : List Value} {result : List Char} {v : Value}
    (hitems : List.Forall₂ Denotes items vs) (hresult : Denotes result v) :
    ∃ reply, (failure items result).reply? = some reply ∧ isSuccess reply.status = true ∧
      reply.body.bind read? = some (.object (failureMembers vs v)) := by
  have hmembers : List.Forall₂ (fun m v => m.1 = v.1 ∧ Denotes m.2 v.2)
      [("success", writeBool false), ("errors", writeArray items), ("result", result)]
      [("success", .bool false), ("errors", .array vs), ("result", v)] :=
    .cons ⟨rfl, denotes_writeBool false⟩
      (.cons ⟨rfl, denotes_writeArray hitems⟩ (.cons ⟨rfl, hresult⟩ .nil))
  refine ⟨_, rfl, rfl, ?_⟩
  rw [Option.bind_some, read?_of_denotes (denotes_writeObject hmembers)]
  rfl

theorem hasTextKeys_failureMembers (vs : List Value) (v : Value) :
    HasTextKeys (failureMembers vs v) :=
  hasTextKeys_map [("success", .bool false), ("errors", .array vs), ("result", v)]

theorem reportsFailure_failureMembers {vs : List Value} {messages : List Message}
    (h : List.Forall₂ Tells vs messages) (v : Value) :
    ReportsFailure (failureMembers vs v) messages :=
  ⟨rfl, vs, rfl, h⟩

/-- A report with two messages around an empty list. -/
def sampleReport : Canned :=
  failure
    [writeObject [("code", writeNat 81057), ("message", writeString "Record already exists.")],
      writeObject [("message", writeString "Try another name.")]]
    (writeArray [])

def sampleMessages : List Message :=
  [⟨81057, "Record already exists."⟩, ⟨0, "Try another name."⟩]

theorem reply?_sampleReport :
    ∃ reply vs, sampleReport.reply? = some reply ∧ isSuccess reply.status = true ∧
      reply.body.bind read? = some (.object (failureMembers vs (.array []))) ∧
      (∀ members, .object members ∈ vs → HasTextKeys members) ∧
      List.Forall₂ Tells vs sampleMessages := by
  have hcoded : List.Forall₂ (fun m v => m.1 = v.1 ∧ Denotes m.2 v.2)
      [("code", writeNat 81057), ("message", writeString "Record already exists.")]
      [("code", .number (digits 81057)), ("message", .string (some "Record already exists."))] :=
    .cons ⟨rfl, denotes_writeNat 81057⟩ (.cons ⟨rfl, denotes_writeString _⟩ .nil)
  have hplain : List.Forall₂ (fun m v => m.1 = v.1 ∧ Denotes m.2 v.2)
      [("message", writeString "Try another name.")]
      [("message", .string (some "Try another name."))] :=
    .cons ⟨rfl, denotes_writeString _⟩ .nil
  obtain ⟨reply, hreply, hs, hbody⟩ := reply?_failure
    (.cons (denotes_writeObject hcoded) (.cons (denotes_writeObject hplain) .nil))
    (denotes_writeArray .nil)
  refine ⟨reply, _, hreply, hs, hbody, ?_, .cons (.coded rfl rfl rfl) (.cons (.plain rfl rfl) .nil)⟩
  intro members hmem
  simp only [List.mem_cons, List.not_mem_nil, or_false, Value.object.injEq] at hmem
  rcases hmem with rfl | rfl
  · exact hasTextKeys_map _
  · exact hasTextKeys_map _

/-- The link over which the report comes back. -/
def sampleLink : Link :=
  { host := some "127.0.0.1:8080".toList, queue := [sampleReport] }

/-- The client at the link's host. -/
def sampleClient : Client :=
  ⟨"secret", "http://127.0.0.1:8080", false⟩

theorem requests_sample_ne {call : Call} (hf : sampleClient.Fits (.ofCall call)) :
    ((Session.providerOf sampleClient).perform call sampleLink).2.requests ≠ sampleLink.requests := by
  have hsends : sampleClient.SendsTo "127.0.0.1:8080".toList :=
    ⟨by decide +kernel, by decide +kernel⟩
  exact (Client.requests_ne_iff_fits hsends (.inl rfl) rfl).2 hf

/-- To a lookup the empty list is a result, and the messages are told. -/
theorem sampleReport_is_told_to_lookup :
    ((Session.providerOf sampleClient).perform (.listRecords "zone-123" .a "www.example.com")
        sampleLink).1 =
      .error (.provider "cloudflare"
        "Record lookup: [81057] Record already exists.; [0] Try another name.") := by
  obtain ⟨reply, vs, hreply, hs, hbody, hkeys, htells⟩ := reply?_sampleReport
  have hdecodes : DecodesFor (.listRecords "zone-123" .a "www.example.com")
      (failureMembers vs (.array [])) := by
    refine ⟨hasTextKeys_failureMembers _ _, fun items item hmem hitem => ?_, .value rfl⟩
    cases List.mem_singleton.1 hmem
    exact hkeys item hitem
  have hreports := reportsFailure_failureMembers htells (.array [])
  have htold := reported_messages_are_told_iff hs hbody hreports sampleClient
    (.listRecords "zone-123" .a "www.example.com") sampleLink (.inl rfl) hreply
    (requests_sample_ne (by decide +kernel))
  exact htold.1.2 hdecodes

/-- To a write the same list is no result, and the messages are lost. -/
theorem sampleReport_is_lost_to_create :
    (∃ reply members, sampleLink.next? = some reply ∧ isSuccess reply.status = true ∧
        reply.body.bind read? = some (.object members) ∧ ReportsFailure members sampleMessages) ∧
      let made := (Session.providerOf sampleClient).perform
        (.createRecord "zone-123" ⟨.a, "www.example.com", "1.2.3.4", 300⟩) sampleLink
      made.1 = .error (.provider "cloudflare"
        "Record create: Failed to parse response: error decoding response body") ∧
      made.1 ≠ .error (.provider "cloudflare"
        "Record create: [81057] Record already exists.; [0] Try another name.") := by
  obtain ⟨reply, vs, hreply, hs, hbody, -, htells⟩ := reply?_sampleReport
  have hreports := reportsFailure_failureMembers htells (.array [])
  refine ⟨⟨reply, _, hreply, hs, hbody, hreports⟩, ?_⟩
  intro made
  have hnot : ¬ DecodesFor (.createRecord "zone-123" ⟨.a, "www.example.com", "1.2.3.4", 300⟩)
      (failureMembers vs (.array [])) := by
    rintro ⟨-, -, hresult⟩
    cases hresult with
    | value h => cases h
  have hnext : sampleLink.next? = some reply := hreply
  have hmade : made.1 = .error (reported .recordCreate unreadable) :=
    (Client.fst_perform_of_sent (.inl rfl) hnext (requests_sample_ne (by decide +kernel))).trans
      (Client.decode_of_not_decodes hs hbody hreports hnot)
  refine ⟨hmade, ?_⟩
  rw [hmade]
  intro h
  have htext := Error.provider.inj (Except.error.inj h)
  revert htext
  decide

end ZoneKeeper.Cloudflare
