/-
**Running the command.**

The command reads its options, connects, updates one record, and says in its log what came of it.
Its exit code tells a wrong configuration from any other failure.

Main definitions:

* `ZoneKeeper.Command.ExitCode` — the three ways to end;
* `ZoneKeeper.Command.exitCodeFor` — how a failure ends the command;
* `ZoneKeeper.Command.run` — the command with its options;
* `ZoneKeeper.Command.execute` — the command in an environment;
* `ZoneKeeper.Command.playback` — the command against a host that plays back replies.
-/

import ZoneKeeper.Cloudflare.Client
import ZoneKeeper.Command.Options
import ZoneKeeper.Http.Link

set_option autoImplicit false

namespace ZoneKeeper.Command

open ZoneKeeper.Http

/-- The ways to end. -/
inductive ExitCode
  | success
  | configuration
  | failure
  deriving DecidableEq, Repr

/-- The code as the system sees it. -/
def ExitCode.code : ExitCode → UInt8
  | .success => 0
  | .configuration => 1
  | .failure => 2

/-- How a failure ends the command. -/
def exitCodeFor (e : Error) : ExitCode :=
  if e.isConfiguration then .configuration else .failure

/-- An entry of the command. -/
def commandEntry (level : Level) (text : String) : Entry :=
  ⟨level, .command, text⟩

/-- What the command prints about an environment that gives no options. -/
def complaint (fault : Fault) : String :=
  "Configuration error: " ++ fault.message

variable {m : Type → Type} [Monad m]

/-- Updates the record and says what came of it. -/
def updateRecord (log : LogSink m) (options : Options) (r : Reconciler m) : m ExitCode := do
  match ← r.update options.record options.address options.ttl with
  | .error e =>
      log (commandEntry .error e.message)
      return exitCodeFor e
  | .ok outcome =>
      log (commandEntry .info outcome.describe)
      return .success

/-- Connects and updates the record. -/
def run (exchange : Exchange m) (log : LogSink m) (options : Options) : m ExitCode := do
  match ← Cloudflare.connect exchange log options.settings with
  | .error e =>
      log (commandEntry .error ("Failed to initialize reconciler: " ++ e.message))
      return exitCodeFor e
  | .ok r => updateRecord log options r

/-- The command in an environment: how it ends, and the fault of an environment that gives no
options.  Only entries at or above the chosen level are logged. -/
def execute (exchange : Exchange m) (log : LogSink m) (env : Environment) :
    m (ExitCode × Option Fault) := do
  match Options.read env with
  | .error fault => return (.configuration, some fault)
  | .ok options => return (← run exchange (log.atLevel options.level) options, none)

/-- What a run of the command leaves behind. -/
structure Trace where
  exitCode : ExitCode
  /-- What was printed about the environment. -/
  complaints : String
  log : List Entry
  requests : List Request

/-- The command against a host that plays back replies. -/
def playback (host : Option WebOrigin) (queue : List Canned) (env : Environment) : Trace :=
  let ((exitCode, fault), link) := execute Link.exchange Link.write env { host, queue }
  { exitCode, complaints := (fault.map fun f => complaint f ++ "\n").getD "", log := link.log,
    requests := link.requests }

end ZoneKeeper.Command
