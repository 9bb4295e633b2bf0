/-
**Log entries.**

An entry has a level, the part of the program that wrote it, and a text.  Levels are ordered from
the most detailed to the most severe, and a threshold keeps the entries at or above it.

Main definitions:

* `ZoneKeeper.Level` — the five levels and their order;
* `ZoneKeeper.Origin` — the part of the program that wrote an entry;
* `ZoneKeeper.Entry` — an entry;
* `ZoneKeeper.LogSink` — where entries go.
-/

set_option autoImplicit false

namespace ZoneKeeper

/-- How much an entry matters. -/
inductive Level
  | trace
  | debug
  | info
  | warn
  | error
  deriving DecidableEq, Repr

namespace Level

/-- The level's name. -/
def text : Level → String
  | .trace => "TRACE"
  | .debug => "DEBUG"
  | .info => "INFO"
  | .warn => "WARN"
  | .error => "ERROR"

/-- The level's place in the order, the most detailed first. -/
def severity : Level → Nat
  | .trace => 0
  | .debug => 1
  | .info => 2
  | .warn => 3
  | .error => 4

/-- An entry of level `l` passes the threshold. -/
def passes (threshold l : Level) : Bool :=
  threshold.severity ≤ l.severity

end Level

/-- The part of the program that wrote an entry. -/
inductive Origin
  | command
  | adapter
  | reconciler
  deriving DecidableEq, Repr

/-- The name of the part in the command's log. -/
def Origin.target : Origin → String
  | .command => "dnsrec"
  | .adapter => "dnsrec_provider_cloudflare"
  | .reconciler => "dnsrec_core::traits::log_sink"

/-- A log entry. -/
structure Entry where
  level : Level
  origin : Origin
  text : String
  deriving DecidableEq, Repr

/-- Where entries go. -/
abbrev LogSink (m : Type → Type) := Entry → m Unit

/-- The sink that passes on only the entries at or above the threshold. -/
def LogSink.atLevel {m : Type → Type} [Monad m] (threshold : Level) (sink : LogSink m) :
    LogSink m := fun entry =>
  if threshold.passes entry.level then sink entry else pure ()

end ZoneKeeper
