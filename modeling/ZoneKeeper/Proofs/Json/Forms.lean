/-
**Written forms are read back.**

Records, payloads, settings and record types are written by one function and read by another, which
share nothing but the names of the fields.  What is written denotes an object with the fields in
their declared order, and each reader finds its fields there, a payload's also in a written record,
whose id it skips.  So whatever stands in the texts of a value, and whichever of its fields are left
out, it is read back as it was.

Main definitions:

* `ZoneKeeper.Record.value`, `ZoneKeeper.Payload.value`, `ZoneKeeper.Settings.value` — the values
  that the written forms denote.

Main results:

* `ZoneKeeper.Record.denotes_json`, `ZoneKeeper.Payload.denotes_json`,
  `ZoneKeeper.Settings.denotes_json` — the written forms denote them;
* `ZoneKeeper.Json.readText?_of_denotes` — a text is read as what its value is read as;
* `ZoneKeeper.written_forms_are_read_back` — **every written form is read back**.
-/

import ZoneKeeper.Proofs.Json.RoundTrip

set_option autoImplicit false

namespace ZoneKeeper

open ZoneKeeper.Json ZoneKeeper.Text

/-- A text that denotes a value is read as the value is. -/
theorem Json.readText?_of_denotes {α : Type} {cs : List Char} {v : Value} (h : Denotes cs v)
    (read : Value → Option α) : readText? read (String.ofList cs) = read v := by
  rw [readText?, String.toList_ofList, read?_of_denotes h, Option.bind_some]

/-! ### Record types -/

theorem RecordType.ofJson?_text (t : RecordType) :
    RecordType.ofJson? (.string (some t.text)) = some t := by
  cases t
  rfl

/-! ### Payloads -/

namespace Payload

/-- The value that a written payload denotes. -/
def value (p : Payload) : Value :=
  .object [(some "type", .string (some p.type.text)), (some "name", .string (some p.name)),
    (some "content", .string (some p.content)), (some "ttl", .number (digits p.ttl.toNat))]

theorem denotes_json (p : Payload) : Denotes p.json p.value := by
  have hmembers : List.Forall₂ (fun m v => m.1 = v.1 ∧ Denotes m.2 v.2)
      [("type", p.type.json), ("name", writeString p.name), ("content", writeString p.content),
        ("ttl", writeNat p.ttl.toNat)]
      [("type", .string (some p.type.text)), ("name", .string (some p.name)),
        ("content", .string (some p.content)), ("ttl", .number (digits p.ttl.toNat))] :=
    .cons ⟨rfl, denotes_writeString _⟩ (.cons ⟨rfl, denotes_writeString _⟩
      (.cons ⟨rfl, denotes_writeString _⟩ (.cons ⟨rfl, denotes_writeNat _⟩ .nil)))
  exact denotes_writeObject hmembers

/-- The payload in a value that gives its fields. -/
theorem ofJson?_of_fieldValues? {v : Value} {p : Payload}
    (h : fieldValues? fields v = some [some (.string (some p.type.text)),
      some (.string (some p.name)), some (.string (some p.content)),
      some (.number (digits p.ttl.toNat))]) : Payload.ofJson? v = some p := by
  simp only [Payload.ofJson?]
  rw [h]
  simp [required?, Value.text?, uint32?_digits, RecordType.ofJson?_text]

theorem ofJson?_value (p : Payload) : Payload.ofJson? p.value = some p :=
  ofJson?_of_fieldValues? rfl

end Payload

/-! ### Records -/

namespace Record

/-- The value that a written record denotes. -/
def value (r : Record) : Value :=
  .object [(some "id", .string (some r.id)), (some "type", .string (some r.type.text)),
    (some "name", .string (some r.name)), (some "content", .string (some r.content)),
    (some "ttl", .number (digits r.ttl.toNat))]

theorem denotes_json (r : Record) : Denotes r.json r.value := by
  have hmembers : List.Forall₂ (fun m v => m.1 = v.1 ∧ Denotes m.2 v.2)
      [("id", writeString r.id), ("type", r.type.json), ("name", writeString r.name),
        ("content", writeString r.content), ("ttl", writeNat r.ttl.toNat)]
      [("id", .string (some r.id)), ("type", .string (some r.type.text)),
        ("name", .string (some r.name)), ("content", .string (some r.content)),
        ("ttl", .number (digits r.ttl.toNat))] :=
    .cons ⟨rfl, denotes_writeString _⟩ (.cons ⟨rfl, denotes_writeString _⟩
      (.cons ⟨rfl, denotes_writeString _⟩ (.cons ⟨rfl, denotes_writeString _⟩
        (.cons ⟨rfl, denotes_writeNat _⟩ .nil))))
  exact denotes_writeObject hmembers

theorem ofJson?_value (r : Record) : Record.ofJson? r.value = some r := by
  have hfields : fieldValues? fields r.value = some [some (.string (some r.id)),
      some (.string (some r.type.text)), some (.string (some r.name)),
      some (.string (some r.content)), some (.number (digits r.ttl.toNat))] := rfl
  simp only [Record.ofJson?]
  rw [hfields]
  simp [required?, Value.text?, uint32?_digits, RecordType.ofJson?_text]

/-- In the written form of a record that holds a payload there is the payload; the id is skipped. -/
theorem payload_ofJson?_value (p : Payload) (id : String) :
    Payload.ofJson? (p.toRecord id).value = some p :=
  Payload.ofJson?_of_fieldValues? rfl

end Record

/-! ### Settings -/

namespace Settings

/-- The value that written settings denote.  An absent base is left out. -/
def value (s : Settings) : Value :=
  .object ([(some "api_token", .string (some s.token)), (some "zone_name", .string (some s.zone)),
    (some "dry_run", .bool s.dryRun)] ++
      s.apiBase.toList.map fun base => (some "api_base", .string (some base)))

theorem denotes_json (s : Settings) : Denotes s.json s.value := by
  have hmembers : List.Forall₂ (fun m v => m.1 = v.1 ∧ Denotes m.2 v.2)
      [("api_token", writeString s.token), ("zone_name", writeString s.zone),
        ("dry_run", writeBool s.dryRun)]
      [("api_token", .string (some s.token)), ("zone_name", .string (some s.zone)),
        ("dry_run", .bool s.dryRun)] :=
    .cons ⟨rfl, denotes_writeString _⟩ (.cons ⟨rfl, denotes_writeString _⟩
      (.cons ⟨rfl, denotes_writeBool _⟩ .nil))
  have hbase : List.Forall₂ (fun m v => m.1 = v.1 ∧ Denotes m.2 v.2)
      (s.apiBase.toList.map fun base => ("api_base", writeString base))
      (s.apiBase.toList.map fun base => ("api_base", .string (some base))) := by
    cases s.apiBase with
    | none => exact .nil
    | some base => exact .cons ⟨rfl, denotes_writeString base⟩ .nil
  have hobject := denotes_writeObject (List.rel_append hmembers hbase)
  rw [List.map_append, List.map_map] at hobject
  exact hobject

theorem ofJson?_value (s : Settings) : Settings.ofJson? s.value = some s := by
  obtain ⟨token, zone, dryRun, apiBase⟩ := s
  have hfields : fieldValues? fields (value ⟨token, zone, dryRun, apiBase⟩) =
      some [some (.string (some token)), some (.string (some zone)), some (.bool dryRun),
        apiBase.map fun base => .string (some base)] := by
    cases apiBase with
    | none => rfl
    | some base => rfl
  have hbase : optional? Value.text? (apiBase.map fun base => .string (some base)) =
      some apiBase := by
    cases apiBase with
    | none => rfl
    | some base => rfl
  simp only [Settings.ofJson?]
  rw [hfields]
  simp [required?, defaulted?, Value.text?, Value.bool?, hbase]

end Settings

/-! ### Every form -/

/-- **Every written form is read back.**  Record types, settings, records and payloads are read from
the text that is written for them, whatever characters their texts hold, whatever the time to live
is, and with or without a base address; and the text of a record that holds a payload is read as
that record and as that payload. -/
theorem written_forms_are_read_back :
    (∀ s : Settings, readText? Settings.ofJson? (String.ofList s.json) = some s) ∧
      (∀ r : Record, readText? Record.ofJson? (String.ofList r.json) = some r) ∧
      (∀ p : Payload, readText? Payload.ofJson? (String.ofList p.json) = some p) ∧
      (∀ t : RecordType, readText? RecordType.ofJson? (String.ofList t.json) = some t) ∧
      ∀ (p : Payload) (id : String),
        readText? Record.ofJson? (String.ofList (p.toRecord id).json) = some (p.toRecord id) ∧
          readText? Payload.ofJson? (String.ofList (p.toRecord id).json) = some p := by
  refine ⟨fun s => ?_, fun r => ?_, fun p => ?_, fun t => ?_, fun p id => ⟨?_, ?_⟩⟩
  · rw [readText?_of_denotes s.denotes_json, s.ofJson?_value]
  · rw [readText?_of_denotes r.denotes_json, r.ofJson?_value]
  · rw [readText?_of_denotes p.denotes_json, p.ofJson?_value]
  · rw [RecordType.json, readText?_of_denotes (denotes_writeString t.text), t.ofJson?_text]
  · rw [readText?_of_denotes (Record.denotes_json _), Record.ofJson?_value]
  · rw [readText?_of_denotes (Record.denotes_json _), Record.payload_ofJson?_value]

end ZoneKeeper
