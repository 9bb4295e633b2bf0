/-
**The options of the command.**

The command is set up by variables of its environment.  They are read in a fixed order and the
first one that is missing or wrong is reported.  Blanks around a value do not count, except in the
log level, which has to be the bare word.

Main definitions:

* `ZoneKeeper.Command.Options` — what the command is to do;
* `ZoneKeeper.Command.Fault` — what can be wrong with the environment;
* `ZoneKeeper.Command.readLevel`, `ZoneKeeper.Command.readMode` — the two variables that hold words;
* `ZoneKeeper.Command.Options.read` — the options that an environment gives.
-/

import ZoneKeeper.Address
import ZoneKeeper.Log
import ZoneKeeper.Settings

set_option autoImplicit false

namespace ZoneKeeper.Command

open ZoneKeeper.Text

/-- The variables that the command reads. -/
inductive Variable
  | ip
  | ttl
  | mode
  | logLevel
  | apiToken
  | zone
  | apiBase
  | record
  deriving DecidableEq, Repr

/-- The name of a variable in the environment. -/
def Variable.key : Variable → String
  | .ip => "DNSREC_IP"
  | .ttl => "DNSREC_TTL"
  | .mode => "DNSREC_MODE"
  | .logLevel => "DNSREC_LOG_LEVEL"
  | .apiToken => "DNSREC_API_TOKEN"
  | .zone => "DNSREC_ZONE"
  | .apiBase => "DNSREC_API_BASE"
  | .record => "DNSREC_RECORD"

/-- An environment: the value of each variable that is set. -/
abbrev Environment := Variable → Option String

/-! ### Faults -/

/-- What can be wrong with an environment. -/
inductive Fault
  | missing (v : Variable)
  | address (text : String)
  | ttl (raw : String) (cause : IntFault)
  | mode (raw : String)
  | level (raw : String)
  | settings (fault : Settings.Fault)
  deriving DecidableEq, Repr

namespace Fault

/-- The fault in a line. -/
def headline : Fault → String
  | .missing v => v.key ++ " is required"
  | .address text => Variable.ip.key ++ " must be an IPv4 address. Got: " ++ text
  | .ttl raw _ => Variable.ttl.key ++ " must be an integer. Got: " ++ raw
  | .mode raw => Variable.mode.key ++ " '" ++ raw ++ "' is not valid. Valid modes: live, dry-run"
  | .level raw =>
      Variable.logLevel.key ++ " '" ++ raw ++
        "' is not valid. Valid levels: trace, debug, info, warn, error"
  | .settings fault => "Configuration error: " ++ fault.message

/-- What is behind the fault, if it has a cause of its own. -/
def cause? : Fault → Option String
  | .address _ => some Address.faultMessage
  | .ttl _ cause => some cause.message
  | _ => none

/-- The fault with its cause. -/
def message (f : Fault) : String :=
  f.headline ++ (f.cause?.map (": " ++ ·)).getD ""

end Fault

/-! ### Words -/

/-- The text with its ASCII letters in lower case.  No other character has a letter of one of the
command's words as its lower case, so the words are recognised as if all letters were lowered. -/
def lower (s : String) : String :=
  String.ofList (s.toList.map Char.toLower)

/-- The level that a word names. -/
def readLevel (raw : String) : Except Fault Level :=
  match lower raw with
  | "trace" => .ok .trace
  | "debug" => .ok .debug
  | "info" => .ok .info
  | "warn" => .ok .warn
  | "error" => .ok .error
  | _ => .error (.level raw)

/-- Whether a word asks for a dry run.  No word means a live run. -/
def readMode (raw : String) : Except Fault Bool :=
  match lower (trim raw) with
  | "" => .ok false
  | "live" => .ok false
  | "dry-run" => .ok true
  | _ => .error (.mode raw)

/-! ### The environment -/

/-- The value of a variable that must be set and not blank, without the blanks around it. -/
def required (env : Environment) (v : Variable) : Except Fault String :=
  match env v with
  | none => .error (.missing v)
  | some raw => if allBlank raw then .error (.missing v) else .ok (trim raw)

/-- The address in the environment. -/
def readAddress (env : Environment) : Except Fault Address := do
  let text ← required env .ip
  match Address.parse? text with
  | none => .error (.address text)
  | some a => .ok a

/-- The time to live in the environment, zero if none is set. -/
def readTtl (env : Environment) : Except Fault Int32 :=
  match env .ttl with
  | none => .ok 0
  | some raw =>
      match readInt32 (trim raw) with
      | .error cause => .error (.ttl raw cause)
      | .ok n => .ok n

/-- The base address in the environment.  A blank one counts as none. -/
def readBase (env : Environment) : Option String :=
  ((env .apiBase).filter fun raw => !allBlank raw).map trim

/-- What the command is to do. -/
structure Options where
  settings : Settings
  record : String
  address : Address
  ttl : Int32
  level : Level
  deriving DecidableEq, Repr

/-- The options that an environment gives. -/
def Options.read (env : Environment) : Except Fault Options := do
  let address ← readAddress env
  let ttl ← readTtl env
  let dryRun ← readMode ((env .mode).getD "")
  let level ← readLevel ((env .logLevel).getD "info")
  let token ← required env .apiToken
  let zone ← required env .zone
  let settings : Settings := { token, zone, dryRun, apiBase := readBase env }
  match settings.fault? with
  | some fault => .error (.settings fault)
  | none =>
      let record ← required env .record
      return { settings, record, address, ttl, level }

end ZoneKeeper.Command
