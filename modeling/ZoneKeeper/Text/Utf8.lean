/-
**Bytes of a text and texts of bytes.**

The encoder writes each character as its UTF-8 bytes.  The decoder reads one byte at a time and
keeps the character it is in the middle of, if any; what it yields is one item for each character
and one for each longest run of bytes that starts a character without finishing one.  Such a run
is an error for the strict reading and U+FFFD for the lenient one.

Main definitions:

* `ZoneKeeper.Text.Utf8.encode` — the bytes of a text;
* `ZoneKeeper.Text.Utf8.scan` — the items that a sequence of bytes falls into;
* `ZoneKeeper.Text.Utf8.decode?` — the text, if every item is a character;
* `ZoneKeeper.Text.Utf8.decodeLossy` — the text with U+FFFD for every other item.
-/

set_option autoImplicit false

namespace ZoneKeeper.Text.Utf8

/-- The UTF-8 bytes of the characters. -/
def encode (cs : List Char) : List UInt8 :=
  cs.flatMap String.utf8EncodeChar

/-- A character whose first bytes have been read. -/
structure Partial where
  /-- How many bytes are still to come. -/
  missing : Nat
  /-- The least value of the next byte. -/
  low : UInt8
  /-- The greatest value of the next byte. -/
  high : UInt8
  /-- The code point's bits read so far. -/
  bits : Nat

/-- What a byte outside any character starts: an item of its own, or a character of more bytes.
The bounds on the second byte rule out forms that are too long, surrogates and values above
U+10FFFF. -/
def start (b : UInt8) : Option Char ⊕ Partial :=
  let n := b.toNat
  if n < 0x80 then .inl (some (Char.ofNat n))
  else if n < 0xC2 then .inl none
  else if n < 0xE0 then .inr ⟨1, 0x80, 0xBF, n - 0xC0⟩
  else if n = 0xE0 then .inr ⟨2, 0xA0, 0xBF, 0⟩
  else if n = 0xED then .inr ⟨2, 0x80, 0x9F, 0xD⟩
  else if n < 0xF0 then .inr ⟨2, 0x80, 0xBF, n - 0xE0⟩
  else if n = 0xF0 then .inr ⟨3, 0x90, 0xBF, 0⟩
  else if n < 0xF4 then .inr ⟨3, 0x80, 0xBF, n - 0xF0⟩
  else if n = 0xF4 then .inr ⟨3, 0x80, 0x8F, 4⟩
  else .inl none

/-- The character's bits after one more of its bytes. -/
def Partial.extend (p : Partial) (b : UInt8) : Nat :=
  p.bits * 0x40 + (b.toNat - 0x80)

/-- The items that the bytes fall into, inside the character `p` if there is one. -/
def scanFrom : Option Partial → List UInt8 → List (Option Char)
  | none, [] => []
  | some _, [] => [none]
  | none, b :: r =>
      match start b with
      | .inl item => item :: scanFrom none r
      | .inr p => scanFrom (some p) r
  | some p, b :: r =>
      if p.low ≤ b ∧ b ≤ p.high then
        if p.missing ≤ 1 then some (Char.ofNat (p.extend b)) :: scanFrom none r
        else scanFrom (some ⟨p.missing - 1, 0x80, 0xBF, p.extend b⟩) r
      else
        match start b with
        | .inl item => none :: item :: scanFrom none r
        | .inr q => none :: scanFrom (some q) r

/-- One item for each character and one `none` for each longest run of bytes that is no part of a
character. -/
def scan (bs : List UInt8) : List (Option Char) :=
  scanFrom none bs

/-- The characters, if the bytes are those of a text. -/
def decode? (bs : List UInt8) : Option (List Char) :=
  (scan bs).mapM id

/-- The characters, with U+FFFD for each run of bytes that is no part of a character. -/
def decodeLossy (bs : List UInt8) : List Char :=
  (scan bs).map (·.getD '\uFFFD')

end ZoneKeeper.Text.Utf8
