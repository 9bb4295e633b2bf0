/-
**IPv4 addresses.**

An address is four octets.  Its text is the dotted quad: the octets in decimal, without leading
zeros, separated by dots.  Reading accepts exactly the texts that writing produces: four parts of
one to three digits, no part above 255, and no leading zero except in `0` itself.

Main definitions:

* `ZoneKeeper.Address` — four octets;
* `ZoneKeeper.Address.text` — the dotted quad;
* `ZoneKeeper.Address.parse?` — the address that a text denotes.
-/

import ZoneKeeper.Text.Decimal
import ZoneKeeper.Text.Fields

set_option autoImplicit false

namespace ZoneKeeper

open ZoneKeeper.Text

/-- An IPv4 address, most significant octet first. -/
structure Address where
  a : UInt8
  b : UInt8
  c : UInt8
  d : UInt8
  deriving DecidableEq, Repr, Inhabited

namespace Address

/-- The octets in order. -/
def octets (x : Address) : List UInt8 :=
  [x.a, x.b, x.c, x.d]

/-- The characters of the dotted quad. -/
def chars (x : Address) : List Char :=
  joinFields '.' (x.octets.map fun o => digits o.toNat)

/-- The dotted quad. -/
def text (x : Address) : String :=
  String.ofList x.chars

/-- The value of a list of digits, if each character is one. -/
def digitsValue? (acc : Nat) : List Char → Option Nat
  | [] => some acc
  | c :: r =>
      match digitValue? c with
      | none => none
      | some d => digitsValue? (acc * 10 + d) r

/-- An octet: one to three digits, no leading zero except in `0`, at most 255. -/
def octet? (cs : List Char) : Option UInt8 :=
  if cs = [] ∨ 3 < cs.length ∨ (cs.head? = some '0' ∧ cs ≠ ['0']) then none
  else
    match digitsValue? 0 cs with
    | none => none
    | some n => if n < 256 then some (UInt8.ofNat n) else none

/-- The address that the characters denote. -/
def parseChars? (cs : List Char) : Option Address :=
  match fields '.' cs with
  | [p, q, r, s] =>
      match octet? p, octet? q, octet? r, octet? s with
      | some a, some b, some c, some d => some ⟨a, b, c, d⟩
      | _, _, _, _ => none
  | _ => none

/-- The address that a text denotes. -/
def parse? (s : String) : Option Address :=
  parseChars? s.toList

/-- The text that stands in a report when an address cannot be read. -/
def faultMessage : String :=
  "invalid IPv4 address syntax"

end Address

end ZoneKeeper
