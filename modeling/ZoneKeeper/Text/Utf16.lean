/-
**Texts of bytes that begin with a mark.**

A byte order mark at the beginning of a text tells how the bytes behind it are to be read: as UTF-8,
or as UTF-16 with either byte of a code unit first.  In UTF-16 a character is one code unit, or a
pair of two that stand for no character by themselves.  What is no character is U+FFFD: each half of
a pair without its other half, and a byte that is left over at the end.  A first half and a byte
that are both left over make one item.

Main definitions:

* `ZoneKeeper.Text.ByteOrder` — which byte of a code unit comes first;
* `ZoneKeeper.Text.Utf16.units` — the code units of bytes;
* `ZoneKeeper.Text.Utf16.decodeLossy` — the text, with U+FFFD for what is no character;
* `ZoneKeeper.Text.decodeMarked` — the text of bytes that may begin with a mark.
-/

import ZoneKeeper.Text.Utf8

set_option autoImplicit false

namespace ZoneKeeper.Text

/-- Which byte of a code unit comes first: the low one or the high one. -/
inductive ByteOrder
  | little
  | big
  deriving DecidableEq, Repr

namespace Utf16

/-- The code unit of two bytes. -/
def unit : ByteOrder → UInt8 → UInt8 → Nat
  | .little, low, high => high.toNat * 0x100 + low.toNat
  | .big, high, low => high.toNat * 0x100 + low.toNat

/-- The code units of the bytes, and `none` for a byte that is left over. -/
def units (order : ByteOrder) : List UInt8 → List (Option Nat)
  | [] => []
  | [_] => [none]
  | a :: b :: r => some (unit order a b) :: units order r

/-- The code unit is the first half of a pair. -/
def isLead (u : Nat) : Bool :=
  0xD800 ≤ u && u < 0xDC00

/-- The code unit is the second half of a pair. -/
def isTrail (u : Nat) : Bool :=
  0xDC00 ≤ u && u < 0xE000

/-- The character of a pair. -/
def pair (lead trail : Nat) : Char :=
  Char.ofNat (0x10000 + (lead - 0xD800) * 0x400 + (trail - 0xDC00))

/-- The item of a code unit that is no first half. -/
def single (u : Nat) : Option Char :=
  if isTrail u then none else some (Char.ofNat u)

/-- The items that the code units fall into, behind the first half of a pair if there is one. -/
def scanFrom : Option Nat → List (Option Nat) → List (Option Char)
  | none, [] => []
  | some _, [] => [none]
  | _, none :: r => none :: scanFrom none r
  | none, some u :: r => if isLead u then scanFrom (some u) r else single u :: scanFrom none r
  | some lead, some u :: r =>
      if isTrail u then some (pair lead u) :: scanFrom none r
      else if isLead u then none :: scanFrom (some u) r
      else none :: single u :: scanFrom none r

/-- The characters, with U+FFFD for what is none. -/
def decodeLossy (order : ByteOrder) (bs : List UInt8) : List Char :=
  (scanFrom none (units order bs)).map (·.getD '\uFFFD')

end Utf16

/-- The characters of bytes that may begin with a mark, which is none of them.  Without a mark the
bytes are read as UTF-8. -/
def decodeMarked : List UInt8 → List Char
  | 0xEF :: 0xBB :: 0xBF :: r => Utf8.decodeLossy r
  | 0xFF :: 0xFE :: r => Utf16.decodeLossy .little r
  | 0xFE :: 0xFF :: r => Utf16.decodeLossy .big r
  | bs => Utf8.decodeLossy bs

end ZoneKeeper.Text
