/-
**Settings of a reconciler.**

The settings are the provider's token, the zone, whether writes are left out, and the base of the
provider's addresses if it is not the public one.  The token is a secret: the inspected settings do
not show it.

Main definitions:

* `ZoneKeeper.Settings` — the settings;
* `ZoneKeeper.Settings.Fault` — what can be wrong with them;
* `ZoneKeeper.Settings.fault?` — the first thing wrong with them;
* `ZoneKeeper.redacted` — what stands for a secret.
-/

import ZoneKeeper.DomainName
import ZoneKeeper.Text.Blank
import ZoneKeeper.Text.Inspect

set_option autoImplicit false

namespace ZoneKeeper

open ZoneKeeper.Text

/-- What stands for a secret in an inspected value. -/
def redacted : String := "<REDACTED>"

/-- Settings of a reconciler. -/
structure Settings where
  token : String
  zone : String
  /-- Reads are done and writes are left out. -/
  dryRun : Bool := false
  /-- The base of the provider's addresses, if it is not the public one. -/
  apiBase : Option String := none
  deriving DecidableEq, Repr

namespace Settings

/-- The inspected value, without the token. -/
def inspect (s : Settings) : String :=
  inspectFields "ReconcilerConfig"
    [("api_token", quoted redacted), ("zone_name", quoted s.zone),
      ("dry_run", inspectBool s.dryRun), ("api_base", inspectOption (s.apiBase.map quoted))]

/-- What can be wrong with settings. -/
inductive Fault
  | blankToken
  | base (text : String)
  | zone (fault : DomainName.Fault)
  deriving DecidableEq, Repr

/-- The text of a fault. -/
def Fault.message : Fault → String
  | .blankToken => "API token cannot be empty"
  | .base text => "API base URL must start with http:// or https://. Got: " ++ text
  | .zone fault => fault.message

/-- The text begins like a web address. -/
def isWebAddress (text : String) : Bool :=
  "http://".toList.isPrefixOf text.toList || "https://".toList.isPrefixOf text.toList

/-- The first thing wrong with the settings. -/
def fault? (s : Settings) : Option Fault :=
  if allBlank s.token then some .blankToken
  else
    match s.apiBase.filter fun base => !isWebAddress base with
    | some base => some (.base base)
    | none => (DomainName.fault? s.zone).map .zone

end Settings

end ZoneKeeper
