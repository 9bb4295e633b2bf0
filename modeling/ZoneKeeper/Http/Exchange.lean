/-
**Requests and replies.**

A request is made for an address and is answered by a reply, or by nothing at all when the
connection cannot be made or is closed without an answer.  A reply's body may be cut short, and
then cannot be read.

Main definitions:

* `ZoneKeeper.Http.Request`, `ZoneKeeper.Http.Reply` — the messages;
* `ZoneKeeper.Http.Exchange` — what takes a request to its host and brings the reply;
* `ZoneKeeper.Http.SendFault` — why a request has no reply;
* `ZoneKeeper.Http.Reply.text?` — a body as a text.
-/

import ZoneKeeper.Http.Status
import ZoneKeeper.Http.Url
import ZoneKeeper.Text.Utf16

set_option autoImplicit false

namespace ZoneKeeper.Http

open ZoneKeeper.Text

/-- What a request does. -/
inductive Method
  | get
  | post
  | patch
  deriving DecidableEq, Repr

/-- The method's name on the wire. -/
def Method.text : Method → String
  | .get => "GET"
  | .post => "POST"
  | .patch => "PATCH"

/-- The method writes. -/
def Method.isWrite : Method → Bool
  | .get => false
  | _ => true

/-- A request as its host receives it. -/
structure Request where
  method : Method
  target : String
  authorization : String
  contentType : Option String
  body : String
  deriving DecidableEq, Repr

/-- A reply.  A body that was cut short is missing. -/
structure Reply where
  status : Nat
  body : Option (List UInt8)
  deriving DecidableEq, Repr

/-- The body as a text.  A mark that it begins with tells how it is written. -/
def Reply.text? (r : Reply) : Option String :=
  r.body.map fun bs => String.ofList (decodeMarked bs)

/-- Takes a request to the host of the address and brings the reply, if there is one. -/
abbrev Exchange (m : Type → Type) := Url → Request → m (Option Reply)

/-- Why a request has no reply. -/
inductive SendFault
  /-- The request cannot be made at all. -/
  | invalid
  /-- Requests are not made for such an address. -/
  | refused (url : String)
  /-- The request was lost. -/
  | lost (url : String)
  deriving DecidableEq, Repr

/-- The text of a fault. -/
def SendFault.message : SendFault → String
  | .invalid => "builder error"
  | .refused url => "builder error for url (" ++ url ++ ")"
  | .lost url => "error sending request for url (" ++ url ++ ")"

/-- May stand in the value of a header: anything but the controls, of which the tab may. -/
def standsInHeader (c : Char) : Bool :=
  c == '\t' || (0x20 ≤ c.toNat && c.toNat != 0x7F)

end ZoneKeeper.Http
