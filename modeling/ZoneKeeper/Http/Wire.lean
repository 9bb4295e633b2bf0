/-
**Messages on the wire.**

A request is written with one connection of its own in mind: the connection is closed after the
reply, so a reply is everything that came until then.  A reply is read when its head is complete;
a body shorter than announced is missing.

Main definitions:

* `ZoneKeeper.Http.Url.endpoint?` — the host and the port that an address leads to;
* `ZoneKeeper.Http.Request.wire` — the bytes of a request;
* `ZoneKeeper.Http.Reply.ofWire?` — the reply that the bytes of a connection hold.
-/

import ZoneKeeper.Http.Exchange

set_option autoImplicit false

namespace ZoneKeeper.Http

open ZoneKeeper.Text

/-- The host and the port that an address leads to. -/
def Url.endpoint? (u : Url) : Option (String × Nat) := do
  let authority ← u.authority
  let host := match authority.host with
    | .ipv6 address => address.chars
    | host => host.chars
  return (String.ofList host, ← authority.port <|> defaultPort? u.scheme)

/-- A header line. -/
def headerLine (name value : String) : String :=
  name ++ ": " ++ value ++ "\r\n"

/-- The bytes of a request to a host, given with its port. -/
def Request.wire (host : List Char) (r : Request) : List UInt8 :=
  let body := Utf8.encode r.body.toList
  let head :=
    r.method.text ++ " " ++ r.target ++ " HTTP/1.0\r\n" ++ headerLine "host" (String.ofList host) ++
      headerLine "authorization" r.authorization ++ headerLine "accept" "*/*" ++
      ((r.contentType.map fun t => headerLine "content-type" t).getD "") ++
      headerLine "content-length" (natText body.length) ++ "\r\n"
  Utf8.encode head.toList ++ body

/-- What stands before the first line break, and what stands after it. -/
def splitLine? : List UInt8 → Option (List UInt8 × List UInt8)
  | [] => none
  | 13 :: 10 :: r => some ([], r)
  | b :: r => (splitLine? r).map fun (line, rest) => (b :: line, rest)

/-- What stands after a line break is shorter than the whole. -/
theorem length_of_splitLine? {bs line rest : List UInt8}
    (h : splitLine? bs = some (line, rest)) : rest.length < bs.length := by
  fun_induction splitLine? bs generalizing line rest with
  | case1 => simp at h
  | case2 r =>
      obtain ⟨-, rfl⟩ := Prod.mk.inj (Option.some.inj h)
      simp only [List.length_cons]
      omega
  | case3 b r _ ih =>
      obtain ⟨⟨l, s⟩, hs, he⟩ := Option.map_eq_some_iff.1 h
      obtain ⟨-, rfl⟩ := Prod.mk.inj he
      have := ih hs
      simp only [List.length_cons]
      omega

/-- The lines up to the first empty one, and what stands after it. -/
def head? (bs : List UInt8) : Option (List (List UInt8) × List UInt8) :=
  match h : splitLine? bs with
  | none => none
  | some ([], rest) => some ([], rest)
  | some (line, rest) =>
      have := length_of_splitLine? h
      (head? rest).map fun (lines, body) => (line :: lines, body)
termination_by bs.length

/-- The name of a header in lower case, and its value. -/
def header (line : List UInt8) : String × String :=
  let cs := Utf8.decodeLossy line
  (String.ofList ((cs.takeWhile (· != ':')).map Char.toLower),
    String.ofList (((cs.dropWhile (· != ':')).drop 1).filter (· != ' ')))

/-- The status code in the first line of a reply. -/
def statusCode? (line : List UInt8) : Option Nat :=
  match fields ' ' (Utf8.decodeLossy line) with
  | version :: code :: _ =>
      if "HTTP/1.".toList.isPrefixOf version ∧ code.length = 3 then (String.ofList code).toNat?
      else none
  | _ => none

/-- The reply that the bytes of a connection hold. -/
def Reply.ofWire? (bs : List UInt8) : Option Reply := do
  let (lines, rest) ← head? bs
  let status ← lines.head?.bind statusCode?
  let announced := ((lines.drop 1).map header).lookup "content-length" |>.bind String.toNat?
  if status = 204 ∨ status = 304 then return ⟨status, some []⟩
  match announced with
  | none => return ⟨status, some rest⟩
  | some n => return ⟨status, if n ≤ rest.length then some (rest.take n) else none⟩

end ZoneKeeper.Http
