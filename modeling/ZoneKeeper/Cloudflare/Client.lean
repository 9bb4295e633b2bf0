/-
**The Cloudflare API as a provider.**

Each operation is one request, and its reply is classified on its own: a request without a reply, a
status that is no success, a body that is no envelope, an envelope that reports a failure, and one
without a result are failures of their own kinds.  Nothing is retried.  In a dry run the reads are
done and the writes are logged instead of sent, with the record that would have been written as the
answer.  The token goes into the authorization header and nowhere else.

Main definitions:

* `ZoneKeeper.Cloudflare.Client` — token, base address and mode;
* `ZoneKeeper.Cloudflare.Client.create?`, `ZoneKeeper.Cloudflare.Client.ofSettings` — making one;
* `ZoneKeeper.Cloudflare.Draft` — a request before it is addressed,
  `ZoneKeeper.Cloudflare.Client.prepare` — the request itself;
* `ZoneKeeper.Cloudflare.classify` — what a reply means;
* `ZoneKeeper.Cloudflare.Client.provider` — the provider;
* `ZoneKeeper.Cloudflare.connect` — a reconciler from settings.
-/

import ZoneKeeper.Cloudflare.Envelope
import ZoneKeeper.Http.Exchange
import ZoneKeeper.Json.Forms
import ZoneKeeper.Reconciler

set_option autoImplicit false

namespace ZoneKeeper.Cloudflare

open ZoneKeeper.Http ZoneKeeper.Json ZoneKeeper.Text

/-- The base of the public API's addresses. -/
def publicBase : String := "https://api.cloudflare.com/client/v4"

/-- Token, base address and mode. -/
structure Client where
  token : String
  /-- The base of every address, which does not end in a slash. -/
  base : String
  dryRun : Bool
  deriving DecidableEq, Repr

/-- The text without the slashes at its end. -/
def trimSlashes (s : String) : String :=
  String.ofList (s.toList.reverse.dropWhile (· == '/')).reverse

namespace Client

/-- A client.  A blank token is refused. -/
def create? (token base : String) (dryRun : Bool) : Except Error Client :=
  if allBlank token then .error (.config "Cloudflare API token cannot be empty")
  else .ok ⟨token, trimSlashes base, dryRun⟩

/-- A client from settings, which are checked first. -/
def ofSettings (s : Settings) : Except Error Client :=
  match s.fault? with
  | some fault => .error (.config fault.message)
  | none => create? s.token (s.apiBase.getD publicBase) s.dryRun

/-- The inspected value, without the token. -/
def inspect (c : Client) : String :=
  inspectFields "CloudflareApi"
    [("api_token", quoted redacted), ("base_url", quoted c.base),
      ("dry_run", inspectBool c.dryRun)]

end Client

/-! ### Requests -/

/-- A request before it is addressed. -/
structure Draft where
  method : Method
  path : String
  query : List (String × String) := []
  payload : Option Payload := none
  deriving DecidableEq, Repr

namespace Draft

/-- Asks for the zones of a name. -/
def zones (name : String) : Draft :=
  { method := .get, path := "/zones", query := [("name", name)] }

/-- The path of a zone's records. -/
def recordsPath (zoneId : String) : String :=
  "/zones/" ++ zoneId ++ "/dns_records"

/-- Asks for the records of a type and name. -/
def records (zoneId : String) (type : RecordType) (name : String) : Draft :=
  { method := .get, path := recordsPath zoneId, query := [("type", type.text), ("name", name)] }

/-- Asks for a new record. -/
def create (zoneId : String) (payload : Payload) : Draft :=
  { method := .post, path := recordsPath zoneId, payload := some payload }

/-- Asks for another content of a record. -/
def update (zoneId recordId : String) (payload : Payload) : Draft :=
  { method := .patch, path := recordsPath zoneId ++ "/" ++ recordId, payload := some payload }

end Draft

/-- The text of a payload on the wire. -/
def payloadText (p : Payload) : String :=
  String.ofList p.json

/-- The address of a draft and the request for it.  The address comes first, then the token, then
the scheme: an address without a host is refused before its query is added.  Credentials in the
base are not part of the request. -/
def Client.prepare (c : Client) (d : Draft) : Except SendFault (Url × Request) :=
  match Url.parse? (c.base ++ d.path).toList with
  | none => .error .invalid
  | some bare =>
      if !bare.hasHost then .error (.refused bare.text)
      else if !c.token.toList.all standsInHeader then .error .invalid
      else
        let url := bare.withoutCredentials.withQuery d.query
        if !url.isHttp || !url.canBeRequested then .error (.refused url.text)
        else
          .ok (url,
            { method := d.method
              target := url.target
              authorization := "Bearer " ++ c.token
              contentType := d.payload.map fun _ => "application/json"
              body := (d.payload.map payloadText).getD "" })

/-! ### Replies -/

/-- What a request was for. -/
inductive Purpose
  | zoneLookup
  | recordLookup
  | recordCreate
  | recordUpdate
  deriving DecidableEq, Repr

/-- The purpose in words. -/
def Purpose.text : Purpose → String
  | .zoneLookup => "Zone lookup"
  | .recordLookup => "Record lookup"
  | .recordCreate => "Record create"
  | .recordUpdate => "Record update"

/-- A failure that the provider reports. -/
def reported (purpose : Purpose) (detail : String) : Error :=
  .provider providerName (purpose.text ++ ": " ++ detail)

/-- The failure of a request without a reply. -/
def sendError (purpose : Purpose) (fault : SendFault) : Error :=
  .http (purpose.text ++ ": HTTP request failed: " ++ fault.message)

/-- The failure of a reply whose status is no success. -/
def statusError (purpose : Purpose) (reply : Reply) : Error :=
  let status := statusText reply.status
  let body := reply.text?.getD "Unable to read error response"
  if reply.status = 401 ∨ reply.status = 403 then
    .authentication
      (purpose.text ++ ": Invalid API token or insufficient permissions. Status: " ++ status)
  else if reply.status = 404 then .notFound (purpose.text ++ ": " ++ status)
  else if reply.status = 429 then
    .rateLimited (purpose.text ++ ": Rate limit exceeded. Status: " ++ status)
  else if 500 ≤ reply.status ∧ reply.status ≤ 599 then
    reported purpose ("Cloudflare server error (transient): " ++ status ++ " - " ++ body)
  else reported purpose (status ++ " - " ++ body)

variable {α : Type}

/-- What an envelope means. -/
def Envelope.outcome (purpose : Purpose) (e : Envelope α) : Except Error α :=
  if !e.success then .error (reported purpose (describeMessages e.errors))
  else
    match e.result with
    | none => .error (reported purpose "Response has no result")
    | some a => .ok a

/-- The envelope in the body of a reply, if the body can be read and holds one. -/
def envelope? (read : Value → Option α) (reply : Reply) : Option (Envelope α) :=
  (reply.body.bind read?).bind (Envelope.ofJson? read)

/-- What a reply means, with results read by `read`. -/
def classify (purpose : Purpose) (read : Value → Option α) (reply : Reply) : Except Error α :=
  if !isSuccess reply.status then .error (statusError purpose reply)
  else
    match envelope? read reply with
    | none =>
        .error (reported purpose "Failed to parse response: error decoding response body")
    | some e => e.outcome purpose

/-! ### The provider -/

/-- An entry of the adapter. -/
def adapterEntry (level : Level) (text : String) : Entry :=
  ⟨level, .adapter, text⟩

namespace Client

variable {m : Type → Type} [Monad m]

/-- Sends a draft and classifies the reply. -/
def send (c : Client) (exchange : Exchange m) (purpose : Purpose) (read : Value → Option α)
    (d : Draft) : m (Except Error α) := do
  match c.prepare d with
  | .error fault => return .error (sendError purpose fault)
  | .ok (url, request) =>
      match ← exchange url request with
      | none => return .error (sendError purpose (.lost url.text))
      | some reply => return classify purpose read reply

/-- The id of the zone with the given name: the first one listed. -/
def resolveZone (c : Client) (exchange : Exchange m) (log : LogSink m) (zone : String) :
    m (Except Error String) := do
  log (adapterEntry .debug ("Looking up zone ID for domain: " ++ zone))
  match ← c.send exchange .zoneLookup (Value.list? ZoneEntry.ofJson?) (.zones zone) with
  | .error e => return .error e
  | .ok [] => return .error (.notFound ("Zone not found: " ++ zone))
  | .ok (entry :: _) =>
      log (adapterEntry .debug ("Found zone ID: " ++ entry.id))
      return .ok entry.id

/-- The records of a name, as the server lists them. -/
def listRecords (c : Client) (exchange : Exchange m) (log : LogSink m) (zoneId : String)
    (type : RecordType) (name : String) : m (Except Error (List Record)) := do
  log (adapterEntry .debug ("Looking up records: " ++ name ++ " (type: " ++ type.text ++ ")"))
  match ← c.send exchange .recordLookup (Value.list? RecordEntry.ofJson?)
      (.records zoneId type name) with
  | .error e => return .error e
  | .ok entries => return RecordEntry.toRecords entries

/-- Creates a record, or logs what would be sent. -/
def createRecord (c : Client) (exchange : Exchange m) (log : LogSink m) (zoneId : String)
    (payload : Payload) : m (Except Error Record) := do
  if c.dryRun then
    log (adapterEntry .info ("[DRY-RUN] Would send POST to zone " ++ zoneId ++
      " with payload: " ++ payloadText payload))
    return .ok (payload.toRecord "dry-run")
  else
    match ← c.send exchange .recordCreate RecordEntry.ofJson? (.create zoneId payload) with
    | .error e => return .error e
    | .ok entry => return entry.toRecord

/-- Replaces a record, or logs what would be sent. -/
def updateRecord (c : Client) (exchange : Exchange m) (log : LogSink m) (zoneId recordId : String)
    (payload : Payload) : m (Except Error Record) := do
  if c.dryRun then
    log (adapterEntry .info ("[DRY-RUN] Would send PATCH for record " ++ recordId ++
      " with payload: " ++ payloadText payload))
    return .ok (payload.toRecord recordId)
  else
    match ← c.send exchange .recordUpdate RecordEntry.ofJson?
        (.update zoneId recordId payload) with
    | .error e => return .error e
    | .ok entry => return entry.toRecord

/-- The client as a provider. -/
def provider (c : Client) (exchange : Exchange m) (log : LogSink m) : Provider m where
  name := providerName
  resolveZone := c.resolveZone exchange log
  listRecords := c.listRecords exchange log
  createRecord := c.createRecord exchange log
  updateRecord := c.updateRecord exchange log

end Client

/-- The entry that announces a dry run. -/
def dryRunEntry : Entry :=
  adapterEntry .warn "Cloudflare provider running in DRY-RUN mode - no changes will be made"

/-- A reconciler from settings.  A dry run is announced before the zone is looked up. -/
def connect {m : Type → Type} [Monad m] (exchange : Exchange m) (log : LogSink m)
    (settings : Settings) : m (Except Error (Reconciler m)) := do
  match Client.ofSettings settings with
  | .error e => return .error e
  | .ok client =>
      if client.dryRun then
        log dryRunEntry
      Reconciler.bind (client.provider exchange log) settings.zone log

end ZoneKeeper.Cloudflare
