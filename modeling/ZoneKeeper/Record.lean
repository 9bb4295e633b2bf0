/-
**DNS records.**

The records that are managed are of type A: a name, the text of an IPv4 address, and a time to
live.  A payload is a record before the provider has given it an id.

Main definitions:

* `ZoneKeeper.RecordType`, `ZoneKeeper.Payload`, `ZoneKeeper.Record`, `ZoneKeeper.Zone`;
* `ZoneKeeper.Payload.toRecord` — the record that the provider holds after writing a payload.
-/

import ZoneKeeper.Text.Decimal
import ZoneKeeper.Text.Inspect

set_option autoImplicit false

namespace ZoneKeeper

open ZoneKeeper.Text

/-- The type of a DNS record.  Only A records are managed. -/
inductive RecordType
  | a
  deriving DecidableEq, Repr

/-- The name of a record type in zone files and messages. -/
def RecordType.text : RecordType → String
  | .a => "A"

/-- A zone as the provider knows it. -/
structure Zone where
  id : String
  name : String
  deriving DecidableEq, Repr

/-- The inspected value. -/
def Zone.inspect (z : Zone) : String :=
  inspectFields "Zone" [("id", quoted z.id), ("name", quoted z.name)]

/-- A record as the provider holds it. -/
structure Record where
  id : String
  type : RecordType
  name : String
  content : String
  ttl : UInt32
  deriving DecidableEq, Repr

/-- The inspected value. -/
def Record.inspect (r : Record) : String :=
  inspectFields "DnsRecord"
    [("id", quoted r.id), ("record_type", r.type.text), ("name", quoted r.name),
      ("content", quoted r.content), ("ttl", natText r.ttl.toNat)]

/-- What is written to the provider to create or replace a record. -/
structure Payload where
  type : RecordType
  name : String
  content : String
  ttl : UInt32
  deriving DecidableEq, Repr

namespace Payload

/-- The record that the provider holds after writing the payload under `id`. -/
def toRecord (p : Payload) (id : String) : Record :=
  ⟨id, p.type, p.name, p.content, p.ttl⟩

/-- The inspected value. -/
def inspect (p : Payload) : String :=
  inspectFields "RecordParams"
    [("record_type", p.type.text), ("name", quoted p.name), ("content", quoted p.content),
      ("ttl", natText p.ttl.toNat)]

@[simp] theorem toRecord_id (p : Payload) (id : String) : (p.toRecord id).id = id := rfl
@[simp] theorem toRecord_name (p : Payload) (id : String) : (p.toRecord id).name = p.name := rfl
@[simp] theorem toRecord_type (p : Payload) (id : String) : (p.toRecord id).type = p.type := rfl
@[simp] theorem toRecord_content (p : Payload) (id : String) :
    (p.toRecord id).content = p.content := rfl
@[simp] theorem toRecord_ttl (p : Payload) (id : String) : (p.toRecord id).ttl = p.ttl := rfl

end Payload

end ZoneKeeper
