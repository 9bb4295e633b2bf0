/-
**Authorities of addresses.**

The authority of an address tells where a request goes: to a host, and to a port if it is not the
one that the scheme uses anyway.  In front of the host, with an at-sign between, there may be
credentials: a user and perhaps a password after a colon.

Main definitions:

* `ZoneKeeper.Http.isWeb`, `ZoneKeeper.Http.isFile`, `ZoneKeeper.Http.isKnown` — schemes with rules
  of their own;
* `ZoneKeeper.Http.Credentials`, `ZoneKeeper.Http.Authority` — credentials, host and port;
* `ZoneKeeper.Http.Authority.parse?`, `ZoneKeeper.Http.Authority.ofFileHost?` — reading them;
* `ZoneKeeper.Http.Authority.chars` — their text.
-/

import ZoneKeeper.Host
import ZoneKeeper.Http.Path

set_option autoImplicit false

namespace ZoneKeeper.Http

open ZoneKeeper.Text

/-! ### Schemes -/

/-- The port that a web scheme uses when none is given. -/
def defaultPort? (scheme : List Char) : Option Nat :=
  if scheme = "http".toList ∨ scheme = "ws".toList then some 80
  else if scheme = "https".toList ∨ scheme = "wss".toList then some 443
  else if scheme = "ftp".toList then some 21
  else none

/-- One of the web's schemes, which need a host. -/
def isWeb (scheme : List Char) : Bool :=
  (defaultPort? scheme).isSome

/-- The scheme of local files, which need no host. -/
def isFile (scheme : List Char) : Bool :=
  scheme == "file".toList

/-- A scheme with rules of its own. -/
def isKnown (scheme : List Char) : Bool :=
  isWeb scheme || isFile scheme

/-! ### Credentials -/

/-- A user and perhaps a password, with the characters escaped that may not stand there. -/
structure Credentials where
  user : List Char
  password : Option (List Char)
  deriving DecidableEq, Repr

namespace Credentials

/-- May stand in a user or a password. -/
def stands (c : Char) : Bool :=
  Path.standsInName c && !(['/', ':', ';', '=', '@', '[', '\\', ']', '^', '|'].contains c)

/-- The credentials in front of the at-sign.  An empty password is none, and an empty user without
one is no credentials. -/
def parse? (cs : List Char) : Option Credentials :=
  let user := percentEncode stands (cs.takeWhile (· != ':'))
  match (cs.dropWhile (· != ':')).drop 1 with
  | [] => if user = [] then none else some ⟨user, none⟩
  | password => some ⟨user, some (percentEncode stands password)⟩

/-- The escaped characters are a text. -/
def isText (cs : List Char) : Bool :=
  (Utf8.decode? (percentDecode cs)).isSome

/-- Credentials that can be read: the user is a text, and so is the password where there is no
user. -/
def areReadable (c : Credentials) : Bool :=
  isText c.user && (c.user != [] || (c.password.map isText).getD false)

/-- The text of credentials with the at-sign. -/
def chars (c : Credentials) : List Char :=
  c.user ++ ((c.password.map fun p => ':' :: p).getD []) ++ ['@']

end Credentials

/-! ### Authorities -/

/-- Credentials, host and port.  Some addresses have an empty host. -/
structure Authority where
  credentials : Option Credentials
  host : Host
  port : Option Nat
  deriving DecidableEq, Repr

namespace Authority

/-- The authority of a host alone. -/
def ofHost (host : Host) : Authority :=
  ⟨none, host, none⟩

/-- The host with the port. -/
def place (a : Authority) : List Char :=
  a.host.chars ++ (a.port.map fun n => ':' :: digits n).getD []

/-- The text of an authority. -/
def chars (a : Authority) : List Char :=
  (a.credentials.map Credentials.chars).getD [] ++ a.place

/-- The port after the host, if it is given and not the scheme's own, and what follows it: nothing
or a backslash. -/
def port? (scheme : List Char) : List Char → Option (Option Nat × List Char)
  | [] => some (none, [])
  | ':' :: r =>
      let ds := r.takeWhile Char.isDigit
      let rest := r.dropWhile Char.isDigit
      let number := ds.foldl (fun n c => n * 10 + (digitValue? c).getD 0) 0
      if 65535 < number ∨ ¬ rest.head?.all (· == '\\') then none
      else if ds = [] ∨ defaultPort? scheme = some number then some (none, rest)
      else some (some number, rest)
  | _ => none

/-- What belongs to the host, and the rest.  A colon ends the host unless it is in brackets. -/
def splitHost (cs : List Char) : List Char × List Char :=
  match cs with
  | '[' :: _ => (cs.takeWhile (· != ']') ++ (cs.dropWhile (· != ']')).take 1,
      (cs.dropWhile (· != ']')).drop 1)
  | _ => (cs.takeWhile (· != ':'), cs.dropWhile (· != ':'))

/-- The host that a text denotes under a scheme. -/
def host? (scheme cs : List Char) : Option Host :=
  if isWeb scheme then Host.resolvable? cs else Host.verbatim? cs

/-- What stands in front of the last at-sign, and what stands after it; all is after it if there is
none. -/
def splitCredentials (cs : List Char) : Option (List Char) × List Char :=
  match (fields '@' cs).reverse with
  | place :: front :: more => (some (joinFields '@' (front :: more).reverse), place)
  | _ => (none, cs)

/-- The authority that a text denotes under a scheme, and what follows its port. -/
def parse? (scheme cs : List Char) : Option (Authority × List Char) :=
  let (front, place) := splitCredentials cs
  if front = some [] ∧ place = [] then none
  else
    let credentials := front.bind Credentials.parse?
    let (hostText, portText) := splitHost place
    match host? scheme hostText, port? scheme portText with
    | some host, some (port, rest) =>
        if ¬ host.isPresent ∧ (isWeb scheme ∨ portText ≠ [] ∨ credentials ≠ none) then none
        else some (⟨credentials, host, port⟩, rest)
    | _, _ => none

/-- The host of a local file.  It is left out if it is this one. -/
def ofFileHost? (cs : List Char) : Option Authority :=
  if cs = [] then some (ofHost (.name []))
  else
    (Host.resolvable? cs).map fun host =>
      if host = .name "localhost".toList then ofHost (.name []) else ofHost host

end Authority

end ZoneKeeper.Http
