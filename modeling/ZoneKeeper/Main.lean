/-
**The command.**

Reads the environment, sends requests over TCP, prints the log on standard output and complaints
about the environment on standard error, and ends with the code that the run came to.  Hosts are
reached by plain HTTP only; a request for any other address has no reply.

Main definitions:

* `ZoneKeeper.environment` — the variables that are set;
* `ZoneKeeper.printEntry` — the log;
* `ZoneKeeper.sendOverTcp` — one request on a connection of its own.
-/

import Std.Async.DNS
import Std.Async.TCP
import Std.Time
import ZoneKeeper.Command.Run
import ZoneKeeper.Http.Wire

set_option autoImplicit false

namespace ZoneKeeper

open Std.Async Std.Net Std.Time

/-- The variables that are set. -/
def environment : IO Command.Environment := do
  let values ← [Command.Variable.ip, .ttl, .mode, .logLevel, .apiToken, .zone, .apiBase,
    .record].mapM fun v => return (v, ← IO.getEnv v.key)
  return fun v => (values.lookup v).join

/-- A log line: the time, the level, the part that wrote it and the text. -/
def printEntry : LogSink IO := fun entry => do
  let now := DateTime.ofTimestamp (← Timestamp.now) TimeZone.ZoneRules.UTC
  let level := if entry.level.text.length < 5 then " " ++ entry.level.text else entry.level.text
  IO.println (now.format "uuuu-MM-dd'T'HH:mm:ss.SSSSSS'Z'" ++ " " ++ level ++ " " ++
    entry.origin.target ++ ": " ++ entry.text)

/-- Everything that comes until the connection is closed. -/
partial def receiveAll (socket : TCP.Socket.Client) (done : ByteArray) : Async ByteArray := do
  match ← socket.recv? 65536 with
  | none => return done
  | some bytes => receiveAll socket (done ++ bytes)

/-- The address of a host and port. -/
def socketAddress (ip : IPAddr) (port : UInt16) : SocketAddress :=
  match ip with
  | .v4 addr => .v4 ⟨addr, port⟩
  | .v6 addr => .v6 ⟨addr, port⟩

/-- Sends a request on a connection of its own and waits for the reply. -/
def sendOverTcp : Http.Exchange IO := fun url request => do
  match url.scheme == "http".toList, url.endpoint? with
  | true, some (host, port) =>
      try
        let found ← (DNS.getAddrInfo host (Text.natText port)).block
        match found[0]? with
        | none => return none
        | some ip =>
            let socket ← TCP.Socket.Client.mk
            let received ← Async.block do
              socket.connect (socketAddress ip (UInt16.ofNat port))
              socket.send (ByteArray.mk (request.wire ((url.authority.map (·.place)).getD [])).toArray)
              receiveAll socket ByteArray.empty
            return Http.Reply.ofWire? received.toList
      catch _ => return none
  | _, _ => return none

end ZoneKeeper

open ZoneKeeper in
/-- The command: its exit code is that of the run. -/
def main : IO UInt32 := do
  let (exitCode, fault) ← Command.execute sendOverTcp printEntry (← environment)
  if let some fault := fault then
    IO.eprintln (Command.complaint fault)
  return exitCode.code.toUInt32
