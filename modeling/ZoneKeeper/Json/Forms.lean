/-
**JSON forms of records and settings.**

Records, payloads and settings are written as objects with their fields in declared order.  An
absent base address is left out.  Reading accepts the object and the array form, and what is
missing in either is taken as the settings' defaults.

Main definitions:

* `ZoneKeeper.RecordType.json`, `ZoneKeeper.Record.json`, `ZoneKeeper.Payload.json`,
  `ZoneKeeper.Settings.json` — writing;
* `ZoneKeeper.RecordType.ofJson?`, `ZoneKeeper.Record.ofJson?`, `ZoneKeeper.Payload.ofJson?`,
  `ZoneKeeper.Settings.ofJson?` — reading a value;
* `ZoneKeeper.Json.readText?` — reading a text.
-/

import ZoneKeeper.Json.Fields
import ZoneKeeper.Json.Reader
import ZoneKeeper.Json.Writer
import ZoneKeeper.Record
import ZoneKeeper.Settings

set_option autoImplicit false

namespace ZoneKeeper

open ZoneKeeper.Json ZoneKeeper.Text

namespace RecordType

/-- The written record type. -/
def json (t : RecordType) : List Char :=
  writeString t.text

/-- The record type that a value denotes: its name, or an object with its name as the only key and
null as the value. -/
def ofJson? : Value → Option RecordType
  | .string (some name) => if name = RecordType.a.text then some .a else none
  | .object [(some name, .null)] => if name = RecordType.a.text then some .a else none
  | _ => none

end RecordType

namespace Record

/-- The fields of a written record. -/
def fields : List Field := [⟨"id", false⟩, ⟨"type", false⟩, ⟨"name", false⟩, ⟨"content", false⟩,
  ⟨"ttl", false⟩]

/-- The written record. -/
def json (r : Record) : List Char :=
  writeObject
    [("id", writeString r.id), ("type", r.type.json), ("name", writeString r.name),
      ("content", writeString r.content), ("ttl", writeNat r.ttl.toNat)]

/-- The record that a value denotes. -/
def ofJson? (v : Value) : Option Record :=
  match fieldValues? fields v with
  | some [id, type, name, content, ttl] => do
      return ⟨← required? Value.text? id, ← required? RecordType.ofJson? type,
        ← required? Value.text? name, ← required? Value.text? content,
        ← required? Value.uint32? ttl⟩
  | _ => none

end Record

namespace Payload

/-- The fields of a written payload. -/
def fields : List Field := [⟨"type", false⟩, ⟨"name", false⟩, ⟨"content", false⟩, ⟨"ttl", false⟩]

/-- The written payload. -/
def json (p : Payload) : List Char :=
  writeObject
    [("type", p.type.json), ("name", writeString p.name), ("content", writeString p.content),
      ("ttl", writeNat p.ttl.toNat)]

/-- The payload that a value denotes. -/
def ofJson? (v : Value) : Option Payload :=
  match fieldValues? fields v with
  | some [type, name, content, ttl] => do
      return ⟨← required? RecordType.ofJson? type, ← required? Value.text? name,
        ← required? Value.text? content, ← required? Value.uint32? ttl⟩
  | _ => none

end Payload

namespace Settings

/-- The fields of written settings. -/
def fields : List Field := [⟨"api_token", false⟩, ⟨"zone_name", false⟩, ⟨"dry_run", true⟩,
  ⟨"api_base", true⟩]

/-- The written settings. -/
def json (s : Settings) : List Char :=
  writeObject
    ([("api_token", writeString s.token), ("zone_name", writeString s.zone),
      ("dry_run", writeBool s.dryRun)] ++
      s.apiBase.toList.map fun base => ("api_base", writeString base))

/-- The settings that a value denotes. -/
def ofJson? (v : Value) : Option Settings :=
  match fieldValues? fields v with
  | some [token, zone, dryRun, apiBase] => do
      return ⟨← required? Value.text? token, ← required? Value.text? zone,
        ← defaulted? false Value.bool? dryRun, ← optional? Value.text? apiBase⟩
  | _ => none

end Settings

/-- What the text of a JSON value denotes. -/
def Json.readText? {α : Type} (read : Value → Option α) (text : String) : Option α :=
  (read? (Utf8.encode text.toList)).bind read

end ZoneKeeper
