/-
**Numeric hosts.**

A host that ends in a number is an IPv4 address, or none at all.  It has up to four parts, each in
decimal, in octal after a zero, or in hexadecimal after `0x`.  The last part fills all the octets
that the others leave, and one dot may follow it.

Main definitions:

* `ZoneKeeper.Host.numeral?` — the number that a part denotes;
* `ZoneKeeper.Host.endsInNumber` — the host has to be an address;
* `ZoneKeeper.Host.numericAddress?` — the address.
-/

import ZoneKeeper.Address
import ZoneKeeper.Text.Hex

set_option autoImplicit false

namespace ZoneKeeper.Host

open ZoneKeeper.Text

/-- The number that digits of a base denote, if all of them are below it. -/
def inBase? (base : Nat) (cs : List Char) : Option Nat :=
  cs.foldl (fun acc c =>
    match acc, hexValue? c with
    | some n, some d => if d < base then some (n * base + d) else none
    | _, _ => none) (some 0)

/-- The number that a part denotes.  No digits after `0x` are a zero. -/
def numeral? : List Char → Option Nat
  | [] => none
  | '0' :: 'x' :: ds | '0' :: 'X' :: ds => inBase? 16 ds
  | '0' :: d :: ds => inBase? 8 (d :: ds)
  | ds => inBase? 10 ds

/-- The parts between the dots, without the empty one after a dot at the end. -/
def numericParts (cs : List Char) : List (List Char) :=
  match (fields '.' cs).reverse with
  | [] :: p :: ps => (p :: ps).reverse
  | ps => ps.reverse

/-- The last part is a number, or looks like one. -/
def endsInNumber (cs : List Char) : Bool :=
  match (numericParts cs).getLast? with
  | some last => (last != [] && last.all Char.isDigit) || (numeral? last).isSome
  | none => false

/-- How many numbers fit into some octets. -/
def capacity : Nat → Nat
  | 0 => 1
  | octets + 1 => 256 * capacity octets

/-- The address of a number, of which the last 32 bits count. -/
def addressOf (n : Nat) : Address :=
  let octet := fun place => UInt8.ofNat (n / capacity place)
  ⟨octet 3, octet 2, octet 1, octet 0⟩

/-- The address of the numbers in front, one octet each, and the last one, which fills the octets
that are left. -/
def addressOfParts? (front : List Nat) (last : Nat) : Option Address :=
  let room := capacity (4 - front.length)
  if front.length < 4 ∧ front.all (· < 256) ∧ last < room then
    some (addressOf (front.foldl (· * 256 + ·) 0 * room + last))
  else none

/-- The address that a host denotes. -/
def numericAddress? (cs : List Char) : Option Address :=
  match (numericParts cs).mapM numeral? with
  | none => none
  | some numbers =>
      match numbers.getLast? with
      | none => none
      | some last => addressOfParts? numbers.dropLast last

end ZoneKeeper.Host
