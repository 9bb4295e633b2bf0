/-
**Hosts.**

A host is a name, an IPv4 address or an IPv6 address; the last stands in brackets.  Where the rules
of the domain name system hold, escapes are resolved, names are brought into ASCII, and a name that
ends in a number is an IPv4 address.  Elsewhere a name is taken as it stands, with controls and
characters beyond ASCII escaped.

Main definitions:

* `ZoneKeeper.Host` — a host;
* `ZoneKeeper.Host.chars` — its text;
* `ZoneKeeper.Host.resolvable?`, `ZoneKeeper.Host.verbatim?` — the host that a text denotes, with and
  without the rules of the domain name system.
-/

import ZoneKeeper.Host.Ipv6
import ZoneKeeper.Host.Name
import ZoneKeeper.Host.Numeric
import ZoneKeeper.Http.Percent

set_option autoImplicit false

namespace ZoneKeeper

open ZoneKeeper.Text ZoneKeeper.Http

/-- A host.  The empty name is no host at all. -/
inductive Host
  | name (cs : List Char)
  | ipv4 (address : Address)
  | ipv6 (address : Host.Ipv6)
  deriving DecidableEq, Repr

namespace Host

/-- The text of a host. -/
def chars : Host → List Char
  | .name cs => cs
  | .ipv4 address => address.chars
  | .ipv6 address => '[' :: address.chars ++ [']']

/-- There is a host. -/
def isPresent (h : Host) : Bool :=
  h != .name []

/-- The host in brackets, if the text is in brackets. -/
def bracketed? (cs : List Char) : Option Host :=
  match cs.reverse with
  | ']' :: inner => (Ipv6.parse? inner.reverse).map .ipv6
  | _ => none

/-- The host that a name in ASCII denotes. -/
def ofAscii? (name : List Char) : Option Host :=
  if name = [] then none
  else if endsInNumber name then (numericAddress? name).map .ipv4
  else some (.name name)

/-- The host that a text denotes by the rules of the domain name system. -/
def resolvable? : List Char → Option Host
  | '[' :: r => bracketed? r
  | cs => (asciiName? (Utf8.decodeLossy (percentDecode cs))).bind ofAscii?

/-- May stand in a name that is taken as it stands. -/
def standsVerbatim (c : Char) : Bool :=
  !(['\x00', ' ', '#', '/', ':', '<', '>', '?', '@', '[', '\\', ']', '^', '|'].contains c)

/-- The host that a text denotes without those rules. -/
def verbatim? : List Char → Option Host
  | '[' :: r => bracketed? r
  | cs =>
      if cs.all standsVerbatim then some (.name (percentEncode isGraphic cs)) else none

end Host

end ZoneKeeper
