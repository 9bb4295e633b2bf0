/-
**IPv6 addresses.**

An address is eight pieces of 16 bits, written in hexadecimal with colons between them.  Two colons
stand for one or more pieces that are zero, once; the last two pieces may be written as a dotted
quad.  Writing leaves out the longest run of zeros, the first one of several, if it has at least two.

Main definitions:

* `ZoneKeeper.Host.Ipv6` — eight pieces;
* `ZoneKeeper.Host.Ipv6.parse?` — the address that a text denotes;
* `ZoneKeeper.Host.Ipv6.chars` — its text.
-/

import ZoneKeeper.Address
import ZoneKeeper.Text.Hex

set_option autoImplicit false

namespace ZoneKeeper.Host

open ZoneKeeper.Text

/-- An IPv6 address, most significant piece first. -/
structure Ipv6 where
  pieces : List UInt16
  length_eq : pieces.length = 8
  deriving DecidableEq, Repr

namespace Ipv6

/-! ### Reading -/

/-- A piece: one to four hexadecimal digits. -/
def piece? (cs : List Char) : Option UInt16 :=
  if cs = [] ∨ 4 < cs.length then none
  else (cs.mapM hexValue?).map fun ds => UInt16.ofNat (ds.foldl (· * 16 + ·) 0)

/-- The two pieces of a dotted quad. -/
def quadPieces (a : Address) : List UInt16 :=
  [UInt16.ofNat (a.a.toNat * 256 + a.b.toNat), UInt16.ofNat (a.c.toNat * 256 + a.d.toNat)]

/-- The pieces between colons; the last one may be a dotted quad if `quad` is set. -/
def piecesOf? (quad : Bool) : List (List Char) → Option (List UInt16)
  | [] => some []
  | [last] =>
      match piece? last with
      | some p => some [p]
      | none => if quad then (Address.parseChars? last).map quadPieces else none
  | cs :: rest =>
      match piece? cs, piecesOf? quad rest with
      | some p, some ps => some (p :: ps)
      | _, _ => none

/-- The pieces of one side of two colons, which may have none. -/
def side? (quad : Bool) (cs : List Char) : Option (List UInt16) :=
  if cs = [] then some [] else piecesOf? quad (fields ':' cs)

/-- What stands before the first two colons and what stands after them. -/
def splitTwoColons? : List Char → Option (List Char × List Char)
  | [] => none
  | ':' :: ':' :: r => some ([], r)
  | c :: r => (splitTwoColons? r).map fun (before, after) => (c :: before, after)

/-- The pieces of an address. -/
def allPieces? (cs : List Char) : Option (List UInt16) :=
  match splitTwoColons? cs with
  | none => piecesOf? true (fields ':' cs)
  | some (before, after) =>
      match side? false before, side? true after with
      | some bs, some as =>
          if bs.length + as.length < 8 then
            some (bs ++ List.replicate (8 - (bs.length + as.length)) 0 ++ as)
          else none
      | _, _ => none

/-- The address that the characters denote. -/
def parse? (cs : List Char) : Option Ipv6 :=
  match allPieces? cs with
  | none => none
  | some ps => if h : ps.length = 8 then some ⟨ps, h⟩ else none

/-! ### Writing -/

/-- How many zeros the pieces begin with. -/
def zeros (ps : List UInt16) : Nat :=
  (ps.takeWhile (· == 0)).length

/-- Where the longest run of zeros begins, counted from `place`, and how long it is; of several the
first one. -/
def longestZeros (place : Nat) : List UInt16 → Nat × Nat
  | [] => (place, 0)
  | p :: ps =>
      let here := zeros (p :: ps)
      let later := longestZeros (place + 1) ps
      if later.2 ≤ here then (place, here) else later

/-- A piece in hexadecimal. -/
def pieceChars (p : UInt16) : List Char :=
  Nat.toDigits 16 p.toNat

/-- Pieces with colons between them. -/
def joinPieces (ps : List UInt16) : List Char :=
  joinFields ':' (ps.map pieceChars)

/-- The text of an address. -/
def chars (x : Ipv6) : List Char :=
  let (place, count) := longestZeros 0 x.pieces
  if count < 2 then joinPieces x.pieces
  else joinPieces (x.pieces.take place) ++ [':', ':'] ++ joinPieces (x.pieces.drop (place + count))

end Ipv6

end ZoneKeeper.Host
