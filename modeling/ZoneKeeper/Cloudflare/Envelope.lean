/-
**The envelope around every answer of the Cloudflare API.**

An answer says whether the request succeeded, lists messages, and holds a result that depends on
the request.  The envelope is read as a whole: an answer that reports a failure but holds a result
of another shape is malformed.

Main definitions:

* `ZoneKeeper.Cloudflare.Message` — a message with its code;
* `ZoneKeeper.Cloudflare.Envelope` — the envelope;
* `ZoneKeeper.Cloudflare.Envelope.ofJson?` — reading one;
* `ZoneKeeper.Cloudflare.ZoneEntry`, `ZoneKeeper.Cloudflare.RecordEntry` — results.
-/

import ZoneKeeper.Error
import ZoneKeeper.Json.Fields
import ZoneKeeper.Record

set_option autoImplicit false

namespace ZoneKeeper.Cloudflare

open ZoneKeeper.Json ZoneKeeper.Text

/-- The provider's name. -/
def providerName : String := "cloudflare"

/-- A message with its code. -/
structure Message where
  code : Int
  text : String
  deriving DecidableEq, Repr

namespace Message

/-- The fields of a message. -/
def fields : List Field := [⟨"code", true⟩, ⟨"message", false⟩]

/-- The message that a value denotes.  A code that is not given is zero. -/
def ofJson? (v : Value) : Option Message :=
  match fieldValues? fields v with
  | some [code, text] => do
      return ⟨← defaulted? 0 Value.int64? code, ← required? Value.text? text⟩
  | _ => none

/-- The message in one line. -/
def line (m : Message) : String :=
  "[" ++ intText m.code ++ "] " ++ m.text

end Message

/-- The messages of a failed request in one line. -/
def describeMessages (ms : List Message) : String :=
  if ms = [] then "API reported failure without details"
  else "; ".intercalate (ms.map Message.line)

/-- The envelope around a result. -/
structure Envelope (α : Type) where
  success : Bool
  errors : List Message
  result : Option α

namespace Envelope

variable {α : Type}

/-- The fields of an envelope.  In an array the result has to be given. -/
def fields : List Field := [⟨"success", false⟩, ⟨"errors", true⟩, ⟨"result", false⟩]

/-- The envelope that a value denotes, with results read by `read`. -/
def ofJson? (read : Value → Option α) (v : Value) : Option (Envelope α) :=
  match fieldValues? fields v with
  | some [success, errors, result] => do
      return ⟨← required? Value.bool? success,
        ← defaulted? [] (Value.list? Message.ofJson?) errors, ← optional? read result⟩
  | _ => none

end Envelope

/-! ### Results -/

/-- A zone as it is listed. -/
structure ZoneEntry where
  id : String
  deriving DecidableEq, Repr

namespace ZoneEntry

/-- The fields of a listed zone. -/
def fields : List Field := [⟨"id", false⟩]

/-- The zone that a value denotes. -/
def ofJson? (v : Value) : Option ZoneEntry :=
  match fieldValues? fields v with
  | some [id] => (required? Value.text? id).map ZoneEntry.mk
  | _ => none

end ZoneEntry

/-- A record as it is listed, of whatever type. -/
structure RecordEntry where
  id : String
  type : String
  name : String
  content : String
  ttl : UInt32
  deriving DecidableEq, Repr

namespace RecordEntry

/-- The fields of a listed record. -/
def fields : List Field := [⟨"id", false⟩, ⟨"type", false⟩, ⟨"name", false⟩, ⟨"content", false⟩,
  ⟨"ttl", false⟩]

/-- The listed record that a value denotes. -/
def ofJson? (v : Value) : Option RecordEntry :=
  match fieldValues? fields v with
  | some [id, type, name, content, ttl] => do
      return ⟨← required? Value.text? id, ← required? Value.text? type,
        ← required? Value.text? name, ← required? Value.text? content,
        ← required? Value.uint32? ttl⟩
  | _ => none

/-- The record, if it is of a type that is managed. -/
def toRecord (e : RecordEntry) : Except Error Record :=
  if e.type = RecordType.a.text then .ok ⟨e.id, .a, e.name, e.content, e.ttl⟩
  else .error (.provider providerName ("Unexpected record type " ++ e.type ++ " for " ++ e.name))

/-- The records, if all of them are of a type that is managed; the first other one is the fault. -/
def toRecords : List RecordEntry → Except Error (List Record)
  | [] => .ok []
  | e :: es =>
      match e.toRecord with
      | .error fault => .error fault
      | .ok r => (toRecords es).map (r :: ·)

end RecordEntry

end ZoneKeeper.Cloudflare
