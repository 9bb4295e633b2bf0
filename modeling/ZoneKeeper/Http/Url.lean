/-
**Absolute addresses.**

An address has a scheme, mostly an authority, a path, and perhaps a query and a fragment.  Reading
brings it into its normal form: control characters and spaces around it and tabs and line breaks in
it are dropped, the scheme is in lower case, and characters that may not stand in a part are
escaped there.  The web's schemes need a host, local files do not, and both take a backslash for a
slash; an address of another scheme whose first character after the colon is no slash has neither
authority nor directories.

Main definitions:

* `ZoneKeeper.Http.Url` — an address;
* `ZoneKeeper.Http.Url.parse?` — reading one;
* `ZoneKeeper.Http.Url.chars` — its text;
* `ZoneKeeper.Http.Url.withQuery`, `ZoneKeeper.Http.Url.withoutCredentials` — changed addresses;
* `ZoneKeeper.Http.Url.target` — what a request asks its host for;
* `ZoneKeeper.Http.WebOrigin`, `ZoneKeeper.Http.Url.origin?` — where a request is taken;
* `ZoneKeeper.Http.Url.canBeRequested` — a request can be written for the address.
-/

import ZoneKeeper.Http.Authority
import ZoneKeeper.Http.Form

set_option autoImplicit false

namespace ZoneKeeper.Http

open ZoneKeeper.Text

/-- An absolute address in its normal form. -/
structure Url where
  scheme : List Char
  authority : Option Authority
  path : List Char
  query : Option (List Char)
  fragment : Option (List Char)
  deriving DecidableEq, Repr

/-- Where requests are taken: a host and port, and the protocol that is spoken there. -/
structure WebOrigin where
  /-- HTTP is spoken over TLS. -/
  secure : Bool := false
  /-- The host and port. -/
  place : List Char
  deriving DecidableEq, Repr

/-- A host and port alone are spoken to by plain HTTP. -/
instance : Coe (List Char) WebOrigin := ⟨fun place => { place }⟩

namespace Url

/-! ### Characters -/

/-- May stand in a fragment. -/
def standsInFragment (c : Char) : Bool :=
  isGraphic c && !([' ', '"', '<', '>', '`'].contains c)

/-- May stand in a query; `known` tells whether the scheme is a known one. -/
def standsInQuery (known : Bool) (c : Char) : Bool :=
  isGraphic c && !([' ', '"', '#', '<', '>'].contains c) && !(known && c == '\'')

/-- May stand in a scheme after its first letter. -/
def standsInScheme (c : Char) : Bool :=
  c.isAlphanum || c == '+' || c == '-' || c == '.'

/-- Separates directories: a slash, and with a known scheme also a backslash. -/
def isSlash (known : Bool) (c : Char) : Bool :=
  c == '/' || (known && c == '\\')

/-! ### Parts of the text -/

/-- Without controls and spaces at either end, and without tabs and line breaks. -/
def clean (cs : List Char) : List Char :=
  let outer := fun c : Char => decide (c.toNat ≤ 0x20)
  (((cs.dropWhile outer).reverse.dropWhile outer).reverse).filter fun c =>
    !(c == '\t' || c == '\n' || c == '\r')

/-- The scheme in lower case and what follows the colon. -/
def splitScheme? (cs : List Char) : Option (List Char × List Char) :=
  match cs with
  | [] => none
  | c :: _ =>
      if !c.isAlpha then none
      else
        match cs.dropWhile standsInScheme with
        | ':' :: rest => some ((cs.takeWhile standsInScheme).map Char.toLower, rest)
        | _ => none

/-- What stands before the first `mark`, and what stands after it if there is one. -/
def splitAtMark (mark : Char) (cs : List Char) : List Char × Option (List Char) :=
  match cs.dropWhile (· != mark) with
  | [] => (cs, none)
  | _ :: rest => (cs.takeWhile (· != mark), some rest)

/-- What stands before the first slash, and the rest from it on. -/
def splitAtSlash (known : Bool) (cs : List Char) : List Char × List Char :=
  (cs.takeWhile fun c => !isSlash known c, cs.dropWhile fun c => !isSlash known c)

/-- The text begins with two slashes. -/
def hasTwoSlashes (known : Bool) : List Char → Bool
  | c :: d :: _ => isSlash known c && isSlash known d
  | _ => false

/-- The names between the slashes, with a known scheme also between backslashes. -/
def names (known : Bool) (cs : List Char) : List (List Char) :=
  fields '/' (cs.map fun c => if isSlash known c then '/' else c)

/-- The names after the slash that a path may begin with. -/
def namesAfterSlash (known : Bool) : List Char → List (List Char)
  | [] => [[]]
  | c :: r => if isSlash known c then names known r else names known (c :: r)

/-! ### Authority and path -/

/-- An authority and a path. -/
abbrev Place := Option Authority × List Char

/-- The place under one of the web's schemes. -/
def webPlace? (scheme rest : List Char) : Option Place :=
  let (authority, path) := splitAtSlash true (rest.dropWhile (isSlash true))
  (Authority.parse? scheme authority).map fun (a, _) =>
    (some a, Path.ofNames (namesAfterSlash true path))

/-- The place of a local file with a host and names.  A drive is on this host. -/
def filePlace (authority : Authority) (names : List (List Char)) : Place :=
  let (path, onDrive) := Path.ofFileNames names
  (some (if onDrive then .ofHost (.name []) else authority), path)

/-- The place of a local file.  A drive in the place of the host belongs to the path. -/
def filePlace? (rest : List Char) : Option Place :=
  if hasTwoSlashes true rest then
    let (host, path) := splitAtSlash true (rest.drop 2)
    if Path.isDrive host then
      some (filePlace (.ofHost (.name [])) (names true (rest.drop 2)))
    else
      (Authority.ofFileHost? host).map fun a =>
        filePlace a (if a.host.isPresent then namesAfterSlash true path else names true path)
  else some (filePlace (.ofHost (.name [])) (namesAfterSlash true rest))

/-- The place under a scheme without rules of its own. -/
def otherPlace? (scheme rest : List Char) : Option Place :=
  if hasTwoSlashes false rest then
    let (authority, path) := splitAtSlash false (rest.drop 2)
    (Authority.parse? scheme authority).map fun (a, more) =>
      (some a, if more ++ path = [] then [] else Path.ofNames (namesAfterSlash false (more ++ path)))
  else if rest.head? = some '/' then some (none, Path.ofNames (namesAfterSlash false rest))
  else some (none, percentEncode isGraphic rest)

/-- The place that follows a scheme, up to the query. -/
def place? (scheme rest : List Char) : Option Place :=
  if isWeb scheme then webPlace? scheme rest
  else if isFile scheme then filePlace? rest
  else otherPlace? scheme rest

/-- The address that the characters denote. -/
def parse? (cs : List Char) : Option Url :=
  match splitScheme? (clean cs) with
  | none => none
  | some (scheme, rest) =>
      let (beforeFragment, fragment) := splitAtMark '#' rest
      let (beforeQuery, query) := splitAtMark '?' beforeFragment
      (place? scheme beforeQuery).map fun (authority, path) =>
        ⟨scheme, authority, path, query.map (percentEncode (standsInQuery (isKnown scheme))),
          fragment.map (percentEncode standsInFragment)⟩

/-! ### Writing -/

/-- A mark and the part that follows it, if there is one. -/
def marked (mark : Char) : Option (List Char) → List Char
  | none => []
  | some cs => mark :: cs

/-- What stands between the scheme and the path.  A path without an authority does not begin like
one: a step to the same directory is put in front. -/
def beforePath (u : Url) : List Char :=
  match u.authority with
  | some a => '/' :: '/' :: a.chars
  | none => if hasTwoSlashes false u.path then ['/', '.'] else []

/-- The text of an address. -/
def chars (u : Url) : List Char :=
  u.scheme ++ ':' :: u.beforePath ++ u.path ++ marked '?' u.query ++ marked '#' u.fragment

/-- The text of an address. -/
def text (u : Url) : String :=
  String.ofList u.chars

/-! ### Use -/

/-- The address names a host. -/
def hasHost (u : Url) : Bool :=
  (u.authority.map (·.host.isPresent)).getD false

/-- The credentials of the address. -/
def credentials? (u : Url) : Option Credentials :=
  u.authority.bind (·.credentials)

/-- The address without credentials that can be read. -/
def withoutCredentials (u : Url) : Url :=
  if (u.credentials?.map (·.areReadable)).getD false then
    { u with authority := u.authority.map fun a => { a with credentials := none } }
  else u

/-- The address with pairs added at the end of its query. -/
def withQuery (u : Url) (pairs : List (String × String)) : Url :=
  if pairs = [] then u
  else
    match u.query with
    | none | some [] => { u with query := some (Form.encode pairs) }
    | some q => { u with query := some (q ++ '&' :: Form.encode pairs) }

/-- What a request asks its host for: the path and the query. -/
def target (u : Url) : String :=
  String.ofList (u.path ++ marked '?' u.query)

/-- The scheme is one that requests can be sent by. -/
def isHttp (u : Url) : Bool :=
  u.scheme = "http".toList || u.scheme = "https".toList

/-- Where a request for the address is taken, if the address is one of HTTP. -/
def origin? (u : Url) : Option WebOrigin :=
  if u.isHttp then
    (u.authority.map Authority.place).map fun place => ⟨u.scheme == "https".toList, place⟩
  else none

/-- The length that the text of an address may have in a request. -/
def lengthLimit : Nat := 65534

/-- May stand in the host of a request. -/
def standsInRequestedHost (c : Char) : Bool :=
  !(['"', '`', '\x7b', '\x7d'].contains c)

/-- A request can be written for the address: it is not too long, and the host has no quotes and
braces in it. -/
def canBeRequested (u : Url) : Bool :=
  u.chars.length ≤ lengthLimit &&
    (u.authority.map fun a => a.host.chars.all standsInRequestedHost).getD true

end Url

end ZoneKeeper.Http
