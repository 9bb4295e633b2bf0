/-
**Form-encoded pairs.**

Pairs of a name and a value are written with an equals sign between the two and an ampersand
between the pairs.  In a name or value, ASCII letters, digits and the four marks `*-._` stand for
themselves, a space becomes a plus sign, and every other byte is percent-encoded.

Main definitions:

* `ZoneKeeper.Http.Form.encodeText`, `ZoneKeeper.Http.Form.encode` — writing;
* `ZoneKeeper.Http.Form.decodeText`, `ZoneKeeper.Http.Form.decode` — reading.
-/

import ZoneKeeper.Http.Percent
import ZoneKeeper.Text.Fields

set_option autoImplicit false

namespace ZoneKeeper.Http.Form

open ZoneKeeper.Text

/-- The byte stands for itself. -/
def stands (b : UInt8) : Bool :=
  let c := Char.ofNat b.toNat
  ('a' ≤ c && c ≤ 'z') || ('A' ≤ c && c ≤ 'Z') || ('0' ≤ c && c ≤ '9') ||
    c == '*' || c == '-' || c == '.' || c == '_'

/-- One byte of a name or value. -/
def encodeByte (b : UInt8) : List Char :=
  if stands b then [Char.ofNat b.toNat] else if b = 0x20 then ['+'] else percentByte b

/-- A name or value. -/
def encodeText (s : String) : List Char :=
  (Utf8.encode s.toList).flatMap encodeByte

/-- A pair. -/
def encodePair (p : String × String) : List Char :=
  encodeText p.1 ++ '=' :: encodeText p.2

/-- The pairs in order. -/
def encode (ps : List (String × String)) : List Char :=
  joinFields '&' (ps.map encodePair)

/-! ### Reading -/

/-- A plus sign stands for a space. -/
def plusToSpace (c : Char) : Char :=
  if c = '+' then ' ' else c

/-- An encoded name or value; bytes that are no text give U+FFFD. -/
def decodeText (cs : List Char) : String :=
  String.ofList (Utf8.decodeLossy (percentDecode (cs.map plusToSpace)))

/-- A pair is cut at its first equals sign; without one the value is empty. -/
def decodePair (cs : List Char) : String × String :=
  (decodeText (cs.takeWhile (· != '=')), decodeText ((cs.dropWhile (· != '=')).drop 1))

/-- The pairs that are written, empty ones left out. -/
def decode (cs : List Char) : List (String × String) :=
  ((fields '&' cs).filter (· != [])).map decodePair

end ZoneKeeper.Http.Form
