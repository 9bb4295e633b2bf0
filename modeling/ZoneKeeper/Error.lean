/-
**Failures.**

A failure is either a wrong configuration or something that happened at, or on the way to, the
provider.  A provider failure that stops work on a record is wrapped with the operation and the
record it happened on; the wrapped failure is kept as it was.

Main definitions:

* `ZoneKeeper.Operation` — the four round trips to a provider;
* `ZoneKeeper.Error` — the failures;
* `ZoneKeeper.Error.message` — their texts;
* `ZoneKeeper.Error.during` — wrapping a failure with its operation and record;
* `ZoneKeeper.Error.sources` — the failures inside a wrapped one, outermost first;
* `ZoneKeeper.Error.inspect` — the inspected value.
-/

import ZoneKeeper.Text.Inspect

set_option autoImplicit false

namespace ZoneKeeper

open ZoneKeeper.Text

/-- A round trip to the provider. -/
inductive Operation
  | resolveZone
  | fetch
  | create
  | update
  deriving DecidableEq, Repr

namespace Operation

/-- What the operation does, in words. -/
def text : Operation → String
  | .resolveZone => "resolve zone ID"
  | .fetch => "fetch DNS records"
  | .create => "create DNS record"
  | .update => "update DNS record"

/-- The operation's tag. -/
def tag : Operation → String
  | .resolveZone => "ResolveZone"
  | .fetch => "Fetch"
  | .create => "Create"
  | .update => "Update"

end Operation

/-- A failure. -/
inductive Error
  /-- A missing credential, or a bad or unknown zone. -/
  | config (detail : String)
  /-- A zone or record that the provider does not have. -/
  | notFound (detail : String)
  /-- A credential that the provider rejects. -/
  | authentication (detail : String)
  /-- Too many requests. -/
  | rateLimited (detail : String)
  /-- A request or answer that was lost on the way. -/
  | http (detail : String)
  /-- A text that is not the JSON it should be. -/
  | json (detail : String)
  /-- Any other failure that the provider reports. -/
  | provider (name detail : String)
  /-- A failure with the operation and the record it happened on. -/
  | operation (op : Operation) (record : String) (source : Error)
  deriving DecidableEq, Repr

namespace Error

/-- The text of a failure. -/
def message : Error → String
  | .config detail => "Configuration error: " ++ detail
  | .notFound detail => "Not found: " ++ detail
  | .authentication detail => "Authentication failed: " ++ detail
  | .rateLimited detail => "Rate limited: " ++ detail
  | .http detail => "HTTP error: " ++ detail
  | .json detail => "JSON error: " ++ detail
  | .provider name detail => "Provider error (" ++ name ++ "): " ++ detail
  | .operation op record source =>
      "failed to " ++ op.text ++ " for " ++ record ++ ": " ++ source.message

/-- The tag of a failure's kind. -/
def tag : Error → String
  | .config _ => "Config"
  | .notFound _ => "NotFound"
  | .authentication _ => "Authentication"
  | .rateLimited _ => "RateLimited"
  | .http _ => "Http"
  | .json _ => "Json"
  | .provider _ _ => "Provider"
  | .operation _ _ _ => "Operation"

/-- Wraps a failure with the operation and the record it happened on. -/
def during (e : Error) (op : Operation) (record : String) : Error :=
  .operation op record e

/-- The failure is about how the program is set up. -/
def isConfiguration : Error → Bool
  | .config _ => true
  | _ => false

/-- The failure came from the provider or from the way to it. -/
def isProvider (e : Error) : Bool :=
  !e.isConfiguration

/-- The operation that the failure is wrapped with. -/
def operation? : Error → Option Operation
  | .operation op _ _ => some op
  | _ => none

/-- The failures inside a wrapped one, outermost first. -/
def sources : Error → List Error
  | .operation _ _ source => source :: source.sources
  | _ => []

/-- The failure, or one inside it, is about JSON. -/
def involvesJson (e : Error) : Bool :=
  (e :: e.sources).any fun
    | .json _ => true
    | _ => false

/-- The inspected value. -/
def inspect : Error → String
  | .provider name detail =>
      inspectFields "Provider" [("provider", quoted name), ("message", quoted detail)]
  | .operation op record source =>
      inspectFields "Operation"
        [("operation", op.tag), ("record_name", quoted record), ("source", source.inspect)]
  | .config detail => inspectTagged "Config" (quoted detail)
  | .notFound detail => inspectTagged "NotFound" (quoted detail)
  | .authentication detail => inspectTagged "Authentication" (quoted detail)
  | .rateLimited detail => inspectTagged "RateLimited" (quoted detail)
  | .http detail => inspectTagged "Http" (quoted detail)
  | .json detail => inspectTagged "Json" (quoted detail)

@[simp] theorem isConfiguration_during (e : Error) (op : Operation) (record : String) :
    (e.during op record).isConfiguration = false := rfl

@[simp] theorem message_during (e : Error) (op : Operation) (record : String) :
    (e.during op record).message =
      "failed to " ++ op.text ++ " for " ++ record ++ ": " ++ e.message := rfl

@[simp] theorem sources_during (e : Error) (op : Operation) (record : String) :
    (e.during op record).sources = e :: e.sources := rfl

end Error

end ZoneKeeper
