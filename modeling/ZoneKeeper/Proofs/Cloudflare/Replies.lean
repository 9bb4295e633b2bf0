/-
**What replies yield.**

A canned reply yields a value when it comes, its status means success, and its body can be read and
holds an envelope that reports success around the value.  This is told from the raw bytes of the
body; the envelopes that are written here for a record and for a list of records yield just those,
whatever characters are in their texts.

Main definitions:

* `ZoneKeeper.Cloudflare.Yields`, `ZoneKeeper.Cloudflare.Lists` — a canned reply yields a value, or
  lists entries;
* `ZoneKeeper.Cloudflare.AllManaged` — entries that are all of the type that is managed;
* `ZoneKeeper.Cloudflare.success` — the reply that reports success around a written result.

Main results:

* `ZoneKeeper.Cloudflare.received_arrived_eq_ok_iff` — a transmission succeeds exactly with what its
  reply yields;
* `ZoneKeeper.Cloudflare.yields_record`, `ZoneKeeper.Cloudflare.lists_records` — **a written record,
  and a written list of records, are read back**.
-/

import ZoneKeeper.Proofs.Cloudflare.Sending
import ZoneKeeper.Proofs.Except
import ZoneKeeper.Proofs.Json.Forms

set_option autoImplicit false

namespace ZoneKeeper

open ZoneKeeper.Http ZoneKeeper.Json ZoneKeeper.Text

namespace Cloudflare

/-! ### What a reply lists -/

/-- The reply yields a value: it comes, its status means success, its body can be read and holds an
envelope that reports success, and the value is the result. -/
def Yields {α : Type} (read : Value → Option α) (canned : Canned) (a : α) : Prop :=
  ∃ reply envelope, canned.reply? = some reply ∧ isSuccess reply.status = true ∧
    envelope? read reply = some envelope ∧ envelope.success = true ∧ envelope.result = some a

/-- The reply lists entries. -/
abbrev Lists (first : Canned) (entries : List RecordEntry) : Prop :=
  Yields (Value.list? RecordEntry.ofJson?) first entries

theorem Envelope.outcome_eq_ok_iff {α : Type} {purpose : Purpose} {e : Envelope α} {a : α} :
    e.outcome purpose = .ok a ↔ e.success = true ∧ e.result = some a := by
  rw [Envelope.outcome]
  cases e.success with
  | false => exact iff_of_false (by simp) (by simp)
  | true =>
      cases e.result with
      | none => exact iff_of_false (by simp) (by simp)
      | some b => simp

/-- A reply means success exactly if its status and its envelope say so. -/
theorem classify_eq_ok_iff {α : Type} {purpose : Purpose} {read : Value → Option α} {reply : Reply}
    {a : α} :
    classify purpose read reply = .ok a ↔
      isSuccess reply.status = true ∧ ∃ envelope, envelope? read reply = some envelope ∧
        envelope.success = true ∧ envelope.result = some a := by
  rw [classify]
  cases isSuccess reply.status with
  | false => exact iff_of_false (by simp) (by simp)
  | true =>
      cases envelope? read reply with
      | none => exact iff_of_false (by simp) (by simp)
      | some e => simpa using Envelope.outcome_eq_ok_iff

/-- A reply without a result fails with its status, or is reported. -/
theorem classify_eq_error {α : Type} {purpose : Purpose} {read : Value → Option α} {reply : Reply}
    {e : Error} (h : classify purpose read reply = .error e) :
    (isSuccess reply.status = false ∧ e = statusError purpose reply) ∨
      (isSuccess reply.status = true ∧ ∃ detail, e = reported purpose detail) := by
  rw [classify] at h
  cases hs : isSuccess reply.status with
  | false =>
      rw [hs] at h
      exact .inl ⟨rfl, (Except.error.inj h).symm⟩
  | true =>
      rw [hs] at h
      refine .inr ⟨rfl, ?_⟩
      cases he : envelope? read reply with
      | none =>
          rw [he] at h
          exact ⟨_, (Except.error.inj h).symm⟩
      | some envelope =>
          rw [he] at h
          change envelope.outcome purpose = .error e at h
          rw [Envelope.outcome] at h
          split at h
          · exact ⟨_, (Except.error.inj h).symm⟩
          · split at h
            · exact ⟨_, (Except.error.inj h).symm⟩
            · cases h

theorem received_arrived_eq_ok_iff {α : Type} {purpose : Purpose} {read : Value → Option α}
    {url : Url} {canned : Canned} {a : α} :
    Client.received purpose read (Client.arrived url canned.reply?) = .ok a ↔
      Yields read canned a := by
  cases h : canned.reply? with
  | none =>
      refine iff_of_false (fun hr => nomatch hr) ?_
      rintro ⟨reply, _, hreply, -⟩
      exact nomatch hreply.symm.trans h
  | some reply =>
      refine classify_eq_ok_iff.trans ⟨?_, ?_⟩
      · rintro ⟨hs, envelope, he⟩
        exact ⟨reply, envelope, h, hs, he⟩
      · rintro ⟨reply', envelope, hreply, hs, he⟩
        obtain rfl := Option.some.inj (h.symm.trans hreply)
        exact ⟨hs, envelope, he⟩

theorem Yields.eq {α : Type} {read : Value → Option α} {canned : Canned} {a b : α}
    (h : Yields read canned a) (h' : Yields read canned b) : a = b := by
  obtain ⟨reply, envelope, hreply, -, he, -, hresult⟩ := h
  obtain ⟨reply', envelope', hreply', -, he', -, hresult'⟩ := h'
  obtain rfl := Option.some.inj (hreply.symm.trans hreply')
  obtain rfl := Option.some.inj (he.symm.trans he')
  exact Option.some.inj (hresult.symm.trans hresult')

/-! ### Entries as records -/

/-- All entries are of the type that is managed. -/
def AllManaged (entries : List RecordEntry) : Prop :=
  ∀ e ∈ entries, e.type = "A"

/-- The record that an entry of the managed type is. -/
def RecordEntry.asRecord (e : RecordEntry) : Record :=
  ⟨e.id, .a, e.name, e.content, e.ttl⟩

theorem RecordEntry.toRecord_eq_ok_iff {e : RecordEntry} {r : Record} :
    e.toRecord = .ok r ↔ e.type = "A" ∧ r = e.asRecord := by
  rw [RecordEntry.toRecord]
  by_cases h : e.type = RecordType.a.text
  · rw [if_pos h]
    exact ⟨fun hr => ⟨h, (Except.ok.inj hr).symm⟩, fun hr => congrArg Except.ok hr.2.symm⟩
  · rw [if_neg h]
    exact iff_of_false (fun hr => nomatch hr) fun hr => h hr.1

theorem RecordEntry.toRecords_eq_ok_iff {es : List RecordEntry} {rs : List Record} :
    toRecords es = .ok rs ↔ AllManaged es ∧ rs = es.map asRecord := by
  induction es generalizing rs with
  | nil =>
      exact ⟨fun h => ⟨fun _ he => (nomatch he), (Except.ok.inj h).symm⟩,
        fun h => congrArg Except.ok h.2.symm⟩
  | cons e es ih =>
      rw [toRecords]
      cases he : e.toRecord with
      | error fault =>
          refine iff_of_false (fun h => nomatch h) fun ⟨hall, _⟩ => ?_
          have hok := toRecord_eq_ok_iff.2 ⟨hall e List.mem_cons_self, rfl⟩
          exact nomatch he.symm.trans hok
      | ok r =>
          obtain ⟨htype, rfl⟩ := toRecord_eq_ok_iff.1 he
          cases hes : toRecords es with
          | error fault =>
              refine iff_of_false (fun h => nomatch h) fun ⟨hall, _⟩ => ?_
              have hok := ih.2 ⟨fun x hx => hall x (List.mem_cons_of_mem e hx), rfl⟩
              exact nomatch hes.symm.trans hok
          | ok rest =>
              obtain ⟨hall, rfl⟩ := ih.1 hes
              constructor
              · intro h
                exact ⟨List.forall_mem_cons.2 ⟨htype, hall⟩, (Except.ok.inj h).symm⟩
              · rintro ⟨-, rfl⟩
                rfl

/-! ### Written envelopes -/

/-- The text of an envelope that reports success around a written result. -/
def successText (result : List Char) : List Char :=
  writeObject [("success", writeBool true), ("errors", writeArray []), ("result", result)]

/-- The reply that reports success around a written result. -/
def success (result : List Char) : Canned :=
  .reply 200 (Utf8.encode (successText result)) 0

/-- A written result is read back. -/
theorem yields_success {α : Type} {read : Value → Option α} {result : List Char} {v : Value} {a : α}
    (hv : Denotes result v) (hread : v.nullable? read = some (some a)) :
    Yields read (success result) a := by
  have hmembers : List.Forall₂ (fun m v => m.1 = v.1 ∧ Denotes m.2 v.2)
      [("success", writeBool true), ("errors", writeArray []), ("result", result)]
      [("success", .bool true), ("errors", .array []), ("result", v)] :=
    .cons ⟨rfl, denotes_writeBool true⟩
      (.cons ⟨rfl, denotes_writeArray .nil⟩ (.cons ⟨rfl, hv⟩ .nil))
  refine ⟨⟨200, some (Utf8.encode (successText result))⟩, ⟨true, [], some a⟩, rfl, rfl, ?_, rfl,
    rfl⟩
  rw [envelope?, Option.bind_some, successText, read?_of_denotes (denotes_writeObject hmembers),
    Option.bind_some]
  simp only [Envelope.ofJson?]
  rw [show fieldValues? Envelope.fields _ = some [some (.bool true), some (.array []), some v] from
    rfl]
  simp [required?, Value.bool?, defaulted?, Value.list?, optional?, hread]

end Cloudflare

/-! ### Listed records -/

namespace Record

/-- The record as it is listed. -/
def asEntry (r : Record) : Cloudflare.RecordEntry :=
  ⟨r.id, r.type.text, r.name, r.content, r.ttl⟩

theorem toRecord_asEntry (r : Record) : r.asEntry.toRecord = .ok r := by
  obtain ⟨id, type, name, content, ttl⟩ := r
  cases type
  rfl

theorem entry_ofJson?_value (r : Record) :
    Cloudflare.RecordEntry.ofJson? r.value = some r.asEntry := by
  simp only [Cloudflare.RecordEntry.ofJson?]
  rw [show fieldValues? Cloudflare.RecordEntry.fields r.value = some [some (.string (some r.id)),
    some (.string (some r.type.text)), some (.string (some r.name)),
    some (.string (some r.content)), some (.number (digits r.ttl.toNat))] from rfl]
  simp [required?, Value.text?, uint32?_digits, asEntry]

theorem mapM_ofJson?_value (rs : List Record) :
    (rs.map value).mapM Cloudflare.RecordEntry.ofJson? = some (rs.map asEntry) := by
  induction rs with
  | nil => rfl
  | cons r rs ih =>
      rw [List.map_cons, List.mapM_cons, entry_ofJson?_value, ih]
      rfl

/-- The records that are listed are the records. -/
theorem toRecords_asEntry (rs : List Record) :
    Cloudflare.RecordEntry.toRecords (rs.map asEntry) = .ok rs := by
  induction rs with
  | nil => rfl
  | cons r rs ih =>
      rw [List.map_cons, Cloudflare.RecordEntry.toRecords, toRecord_asEntry]
      dsimp only
      rw [ih]
      rfl

end Record

namespace Cloudflare

/-- A written record is read back. -/
theorem yields_record (r : Record) : Yields RecordEntry.ofJson? (success r.json) r.asEntry :=
  yields_success r.denotes_json (congrArg (Option.map some) r.entry_ofJson?_value)

/-- A written list of records is read back. -/
theorem lists_records (rs : List Record) :
    Lists (success (writeArray (rs.map Record.json))) (rs.map Record.asEntry) := by
  have hitems : List.Forall₂ Denotes (rs.map Record.json) (rs.map Record.value) :=
    List.forall₂_map_left_iff.2 (List.forall₂_map_right_iff.2
      (List.forall₂_same.2 fun r _ => r.denotes_json))
  exact yields_success (denotes_writeArray hitems)
    (congrArg (Option.map some) (Record.mapM_ofJson?_value rs))

end Cloudflare

end ZoneKeeper
