/-
**Directions of writing.**

Letters are written from left to right or from right to left, numbers follow the one or the other,
and marks and signs take the direction of what is around them.  The tables hold the characters that
may stand in a host name.

Main definitions:

* `ZoneKeeper.Unicode.Direction` — the directions;
* `ZoneKeeper.Unicode.direction` — the direction of a character.
-/

import ZoneKeeper.Unicode.Mark

set_option autoImplicit false

namespace ZoneKeeper.Unicode

/-- A direction of writing. -/
inductive Direction
  | left
  | right
  | europeanNumber
  | arabicNumber
  /-- A sign that takes the direction of its neighbours. -/
  | neutral
  /-- A mark that takes the direction of its letter. -/
  | nonspacing
  deriving DecidableEq, Repr

/-- The characters written from right to left. -/
def rightTable : List String := [
  "5BE-5F4 608 60B 60D 61B-64A 66D-6D5 6E5-6E6 6EE-6EF 6FA-7F5 7FA-8C9 FBB2-FBC2 FE73",
  "10800-1091B 10920-10B35 10B40-10D23 10D4A-10D4F 10D6F-10D8F 10E80-10ECA 10ED9-10FF6",
  "1E800-1ED3D"]

/-- The digits of numbers that read from left to right, beyond ASCII. -/
def europeanNumberTable : List String := [
  "6F0-6F9 102E1-102FB"]

/-- The digits and signs of numbers in a text from right to left. -/
def arabicNumberTable : List String := [
  "660-669 66B-66C 10D30-10D49 10E60-10E7E"]

/-- The signs beyond ASCII that take the direction of their neighbours. -/
def neutralTable : List String := [
  "A1-D7 F7 2B9-2BA 2C2-2CF 2D2-2ED 2EF-2FF 375 3F6 58A-58F 606-607 609-60A 60C 60E-60F 66A 6DE",
  "6E9 7F6-7F9 9F2-9F3 9FB AF1 BF3-BFA C78-C7E E3F F3A-F3D 1390-1399 1400 169B-169C 17DB",
  "17F0-180A 1940-1945 19DE-19FF 200C-214D 218A-2335 237B-2394 2396-26AB 26AD-27FF 2900-2BFF",
  "2CE5-2CEA 2CF9-2CFF 2E00-3004 3008-3020 3030 3037 303D-303F 30A0 30FB 31C0-31E5 4DC0-4DFF",
  "A490-A4C6 A60D-A60F A673-A67F A700-A721 A788 A828-A82B A838-A839 A874-A877 AB6A-AB6B",
  "FBC3-FE46 10101 10140-1018C 10190-101A0 1091F 10B39-10B3F 10D6E 10ED0-10ED8 11052-11065",
  "11660-1166C 11FD5-11FF1 16FE2 191A0-191D2 1CC00-1CEFD 1D1E9-1D1EA 1D200-1D245 1D300-1D356",
  "1DB00-1DB1C 1E2FF 1EEF0-1F12F 1F16D-1F16F 1F1AD-1F1AE 1F260-1FBFA"]

/-- The ranges written from right to left. -/
def rightRanges : List Range := readRanges rightTable

/-- The ranges of digits that read from left to right. -/
def europeanNumberRanges : List Range := readRanges europeanNumberTable

/-- The ranges of digits in a text from right to left. -/
def arabicNumberRanges : List Range := readRanges arabicNumberTable

/-- The ranges of signs. -/
def neutralRanges : List Range := readRanges neutralTable

/-- The nonspacing marks that have a direction of their own, from left to right. -/
def leftMarks : List Char :=
  ['\u0CBF', '\u0CC6', Char.ofNat 0x11A07, Char.ofNat 0x11A08, Char.ofNat 0x11C3F]

/-- The direction of a character. -/
def direction (c : Char) : Direction :=
  if isAscii c then
    if c.isDigit then .europeanNumber else if c.isAlpha then .left else .neutral
  else if isNonspacing c then if leftMarks.contains c then .left else .nonspacing
  else if covers rightRanges c then .right
  else if covers europeanNumberRanges c then .europeanNumber
  else if covers arabicNumberRanges c then .arabicNumber
  else if covers neutralRanges c then .neutral
  else .left

end ZoneKeeper.Unicode
