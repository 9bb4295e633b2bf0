/-
**Percent-encoding.**

A byte that must not stand in an address for itself is written as a percent sign and two
upper-case hexadecimal digits.  Which characters may stand for themselves depends on the part of
the address; every character that may not is written as its UTF-8 bytes.

Main definitions:

* `ZoneKeeper.Http.isGraphic` — the characters that some part of an address can hold as they are;
* `ZoneKeeper.Http.percentByte` — a byte in its escaped form;
* `ZoneKeeper.Http.percentEncode` — a text, given the characters that stand for themselves;
* `ZoneKeeper.Http.percentByte?` — the byte that two hexadecimal digits denote;
* `ZoneKeeper.Http.percentDecode` — the bytes that an encoded text denotes.
-/

import ZoneKeeper.Text.Hex
import ZoneKeeper.Text.Utf8

set_option autoImplicit false

namespace ZoneKeeper.Http

open ZoneKeeper.Text

/-- A character of ASCII that is seen, or the space.  Any other character is escaped wherever it
stands in an address. -/
def isGraphic (c : Char) : Bool :=
  0x20 ≤ c.toNat && c.toNat < 0x7F

/-- A byte as a percent sign and two digits. -/
def percentByte (b : UInt8) : List Char :=
  ['%', hexDigit (b.toNat / 16), hexDigit (b.toNat % 16)]

/-- The byte that two hexadecimal digits denote. -/
def percentByte? (high low : Char) : Option UInt8 :=
  match hexValue? high, hexValue? low with
  | some h, some l => some (UInt8.ofNat (h * 16 + l))
  | _, _ => none

/-- The characters, those that may stand for themselves as they are and the others escaped. -/
def percentEncode (stands : Char → Bool) (cs : List Char) : List Char :=
  cs.flatMap fun c => if stands c then [c] else (Utf8.encode [c]).flatMap percentByte

/-- The bytes that an encoded text denotes.  A percent sign without two digits stands for
itself. -/
def percentDecode : List Char → List UInt8
  | [] => []
  | '%' :: high :: low :: r =>
      match percentByte? high low with
      | some b => b :: percentDecode r
      | none => '%'.toUInt8 :: percentDecode (high :: low :: r)
  | c :: r => String.utf8EncodeChar c ++ percentDecode r

end ZoneKeeper.Http
