/-
**The words of a JSON text.**

The text is read one byte at a time.  Between words, white space is passed over; a word is a
punctuation mark, a literal name, a numeral or a string literal.  A numeral ends at the first byte
that cannot continue it.  A string literal is a sequence of bytes and of code units written as
escapes; whether it denotes a text is decided when it ends: paired surrogate escapes denote one
character, an unpaired one denotes none, and the bytes must be UTF-8.

Main definitions:

* `ZoneKeeper.Json.Token` — the words;
* `ZoneKeeper.Json.Piece`, `ZoneKeeper.Json.piecesText?` — string literals and their texts;
* `ZoneKeeper.Json.Mode` — what the reading of a word is in the middle of;
* `ZoneKeeper.Json.Mode.step` — the effect of one byte;
* `ZoneKeeper.Json.tokens?` — the words of a text.
-/

import ZoneKeeper.Text.Hex
import ZoneKeeper.Text.Utf8

set_option autoImplicit false

namespace ZoneKeeper.Json

open ZoneKeeper.Text

/-- A word of a JSON text. -/
inductive Token
  | openBrace
  | closeBrace
  | openBracket
  | closeBracket
  | comma
  | colon
  | null
  | bool (b : Bool)
  | number (numeral : List Char)
  | string (text : Option String)
  deriving DecidableEq, Repr

/-! ### String literals -/

/-- A piece of a string literal: a byte, or a code unit given by an escape. -/
inductive Piece
  | byte (b : UInt8)
  | unit (u : Nat)
  deriving DecidableEq, Repr

/-- A code unit that begins a surrogate pair. -/
def isHighSurrogate (u : Nat) : Bool := 0xD800 ≤ u && u ≤ 0xDBFF

/-- A code unit that ends a surrogate pair. -/
def isLowSurrogate (u : Nat) : Bool := 0xDC00 ≤ u && u ≤ 0xDFFF

/-- The character that a surrogate pair denotes. -/
def pairChar (high low : Nat) : Char :=
  Char.ofNat (0x10000 + (high - 0xD800) * 0x400 + (low - 0xDC00))

/-- The bytes of the pieces, if every surrogate is paired. -/
def piecesBytes? : List Piece → Option (List UInt8)
  | [] => some []
  | .byte b :: r => (piecesBytes? r).map (b :: ·)
  | .unit u :: .unit v :: r =>
      if isHighSurrogate u then
        if isLowSurrogate v then (piecesBytes? r).map (Utf8.encode [pairChar u v] ++ ·) else none
      else if isLowSurrogate u then none
      else (piecesBytes? (.unit v :: r)).map (Utf8.encode [Char.ofNat u] ++ ·)
  | .unit u :: r =>
      if isHighSurrogate u || isLowSurrogate u then none
      else (piecesBytes? r).map (Utf8.encode [Char.ofNat u] ++ ·)

/-- The text that a string literal denotes, if it denotes one. -/
def piecesText? (ps : List Piece) : Option String :=
  ((piecesBytes? ps).bind Utf8.decode?).map String.ofList

/-- The byte that a one-letter escape stands for. -/
def escapedByte? (b : UInt8) : Option UInt8 :=
  if b = '"'.toUInt8 ∨ b = '\\'.toUInt8 ∨ b = '/'.toUInt8 then some b
  else if b = 'b'.toUInt8 then some 0x08
  else if b = 'f'.toUInt8 then some 0x0C
  else if b = 'n'.toUInt8 then some 0x0A
  else if b = 'r'.toUInt8 then some 0x0D
  else if b = 't'.toUInt8 then some 0x09
  else none

/-! ### Numerals -/

/-- How much of a numeral has been read. -/
inductive Phase
  | minus
  | zero
  | whole
  | point
  | fraction
  | exponentMark
  | exponentSign
  | exponent
  deriving DecidableEq, Repr

/-- A decimal digit. -/
def isDigitByte (b : UInt8) : Bool :=
  '0'.toUInt8 ≤ b && b ≤ '9'.toUInt8

/-- The mark that begins an exponent. -/
def isExponentMark (b : UInt8) : Bool :=
  b == 'e'.toUInt8 || b == 'E'.toUInt8

namespace Phase

/-- The numeral may end here. -/
def isFinal : Phase → Bool
  | .zero | .whole | .fraction | .exponent => true
  | _ => false

/-- The phase after one more byte of the numeral, or nothing if the byte is not part of it. -/
def next? (p : Phase) (b : UInt8) : Option Phase :=
  match p with
  | .minus =>
      if b = '0'.toUInt8 then some .zero else if isDigitByte b then some .whole else none
  | .zero =>
      if b = '.'.toUInt8 then some .point
      else if isExponentMark b then some .exponentMark
      else none
  | .whole =>
      if isDigitByte b then some .whole
      else if b = '.'.toUInt8 then some .point
      else if isExponentMark b then some .exponentMark
      else none
  | .point => if isDigitByte b then some .fraction else none
  | .fraction =>
      if isDigitByte b then some .fraction
      else if isExponentMark b then some .exponentMark
      else none
  | .exponentMark =>
      if isDigitByte b then some .exponent
      else if b = '+'.toUInt8 ∨ b = '-'.toUInt8 then some .exponentSign
      else none
  | .exponentSign => if isDigitByte b then some .exponent else none
  | .exponent => if isDigitByte b then some .exponent else none

end Phase

/-! ### Reading words -/

/-- What the reading is in the middle of.  What has been read of a word is kept latest first. -/
inductive Mode
  | between
  | literal (done : List Piece)
  | escape (done : List Piece)
  /-- A code unit escape with `left + 1` digits to come. -/
  | unit (done : List Piece) (left value : Nat)
  | numeral (phase : Phase) (done : List Char)
  /-- A literal name with the bytes still to come. -/
  | name (rest : List UInt8) (token : Token)

/-- White space between words. -/
def isSpaceByte (b : UInt8) : Bool :=
  b == 0x20 || b == 0x09 || b == 0x0A || b == 0x0D

/-- The effect of a byte that begins a word or stands between words. -/
def begin? (b : UInt8) : Option (List Token × Mode) :=
  if isSpaceByte b then some ([], .between)
  else if b = '\x7b'.toUInt8 then some ([.openBrace], .between)
  else if b = '\x7d'.toUInt8 then some ([.closeBrace], .between)
  else if b = '['.toUInt8 then some ([.openBracket], .between)
  else if b = ']'.toUInt8 then some ([.closeBracket], .between)
  else if b = ','.toUInt8 then some ([.comma], .between)
  else if b = ':'.toUInt8 then some ([.colon], .between)
  else if b = '"'.toUInt8 then some ([], .literal [])
  else if b = '-'.toUInt8 then some ([], .numeral .minus ['-'])
  else if b = '0'.toUInt8 then some ([], .numeral .zero ['0'])
  else if isDigitByte b then some ([], .numeral .whole [Char.ofNat b.toNat])
  else if b = 't'.toUInt8 then some ([], .name ("rue".toList.map Char.toUInt8) (.bool true))
  else if b = 'f'.toUInt8 then some ([], .name ("alse".toList.map Char.toUInt8) (.bool false))
  else if b = 'n'.toUInt8 then some ([], .name ("ull".toList.map Char.toUInt8) .null)
  else none

/-- The effect of one byte: the words that end with it, and what comes next. -/
def Mode.step (m : Mode) (b : UInt8) : Option (List Token × Mode) :=
  match m with
  | .between => begin? b
  | .literal done =>
      if b = '"'.toUInt8 then some ([.string (piecesText? done.reverse)], .between)
      else if b = '\\'.toUInt8 then some ([], .escape done)
      else if b < 0x20 then none
      else some ([], .literal (.byte b :: done))
  | .escape done =>
      if b = 'u'.toUInt8 then some ([], .unit done 3 0)
      else (escapedByte? b).map fun c => ([], .literal (.byte c :: done))
  | .unit done left value =>
      match hexValue? (Char.ofNat b.toNat), left with
      | none, _ => none
      | some d, 0 => some ([], .literal (.unit (value * 16 + d) :: done))
      | some d, k + 1 => some ([], .unit done k (value * 16 + d))
  | .numeral phase done =>
      match phase.next? b with
      | some next => some ([], .numeral next (Char.ofNat b.toNat :: done))
      | none =>
          if phase.isFinal then
            (begin? b).map fun (ts, m) => (.number done.reverse :: ts, m)
          else none
  | .name rest token =>
      match rest with
      | [] => none
      | [c] => if b = c then some ([token], .between) else none
      | c :: cs => if b = c then some ([], .name cs token) else none

/-- The words that end with the text. -/
def Mode.finish : Mode → Option (List Token)
  | .between => some []
  | .numeral phase done => if phase.isFinal then some [.number done.reverse] else none
  | _ => none

/-- The words of the rest of a text, after those already read, which are kept latest first. -/
def tokensFrom? (done : List Token) (m : Mode) : List UInt8 → Option (List Token)
  | [] => m.finish.map fun ts => done.reverse ++ ts
  | b :: r =>
      match m.step b with
      | none => none
      | some (ts, next) => tokensFrom? (ts.reverse ++ done) next r

/-- The words of a text. -/
def tokens? (bs : List UInt8) : Option (List Token) :=
  tokensFrom? [] .between bs

end ZoneKeeper.Json
