/-
**A link to a host that plays back replies.**

The link leads to one host, or to none.  With the host goes the protocol that is spoken there,
plain HTTP or HTTP over TLS; the messages are the same in both.  The host has a queue of canned
replies and takes the next one for each request, whatever the request is; when the queue is empty it
answers with a failure of its own.  The link keeps the requests that the host received and the log,
in order.

Main definitions:

* `ZoneKeeper.Http.Canned` — a canned reply;
* `ZoneKeeper.Http.Link` — the host, its queue, and what has happened;
* `ZoneKeeper.Http.Link.exchange`, `ZoneKeeper.Http.Link.write` — the link as an exchange and as a
  log.
-/

import ZoneKeeper.Http.Exchange
import ZoneKeeper.Log

set_option autoImplicit false

namespace ZoneKeeper.Http

open ZoneKeeper.Text

/-- A canned reply. -/
inductive Canned
  /-- A reply whose body is announced as longer than what is sent by the last number. -/
  | reply (status : Nat) (body : List UInt8) (missing : Nat)
  /-- The connection is closed without an answer. -/
  | drop
  deriving DecidableEq, Repr

/-- A reply with this status has no body, whatever is announced. -/
def isBodiless (status : Nat) : Bool :=
  status == 204 || status == 304

/-- What a canned reply looks like to the one who asked. -/
def Canned.reply? : Canned → Option Reply
  | .drop => none
  | .reply status body missing =>
      if isBodiless status then some ⟨status, some []⟩
      else if missing = 0 then some ⟨status, some body⟩
      else some ⟨status, none⟩

/-- What the host answers when its queue is empty. -/
def Canned.exhausted : Canned :=
  .reply 500 (Utf8.encode "no canned response".toList) 0

/-- A link to a host, with what has happened on it. -/
structure Link where
  /-- The host that can be reached, if any. -/
  host : Option WebOrigin
  queue : List Canned := []
  requests : List Request := []
  log : List Entry := []

namespace Link

/-- The address leads to the link's host: its host and port are the ones, and so is its protocol. -/
def reaches (l : Link) (url : Url) : Bool :=
  l.host.isSome && url.origin? == l.host

/-- Takes a request to the host. -/
def exchange : Exchange (StateM Link) := fun url request l =>
  if l.reaches url then
    ((l.queue.headD .exhausted).reply?,
      { l with queue := l.queue.drop 1, requests := l.requests ++ [request] })
  else (none, l)

/-- Keeps a log entry. -/
def write : LogSink (StateM Link) := fun entry l =>
  ((), { l with log := l.log ++ [entry] })

end Link

end ZoneKeeper.Http
