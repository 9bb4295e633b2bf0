/-
**Decimal numerals.**

A natural number is written with its digits and no leading zero.  A signed 32-bit integer is read
from an optional sign and digits, from the left: the first character that is no digit, or the
first digit that takes the value out of range, decides which fault is reported.

Main definitions:

* `ZoneKeeper.Text.digits` — the digits of a natural number;
* `ZoneKeeper.Text.digitValue?` — the value of a decimal digit;
* `ZoneKeeper.Text.IntFault` — why a text is no 32-bit integer;
* `ZoneKeeper.Text.readInt32` — reading one.

Main results:

* `ZoneKeeper.Text.eq_of_natText_eq` — no two natural numbers have one text.
-/

set_option autoImplicit false

namespace ZoneKeeper.Text

/-- The decimal digits of a natural number, most significant first. -/
def digits (n : Nat) : List Char :=
  Nat.toDigits 10 n

/-- The decimal text of a natural number. -/
def natText (n : Nat) : String :=
  String.ofList (digits n)

theorem eq_of_digits_eq {m n : Nat} (h : digits m = digits n) : m = n := by
  have hvalue := congrArg (fun ds => Nat.ofDigitChars 10 ds 0) h
  simpa only [digits, Nat.ofDigitChars_ten_toDigits] using hvalue

/-- No two natural numbers have one text. -/
theorem eq_of_natText_eq {m n : Nat} (h : natText m = natText n) : m = n :=
  eq_of_digits_eq (String.ofList_injective h)

/-- The decimal text of an integer: a minus sign in front of the digits of a negative one. -/
def intText : Int → String
  | .ofNat n => natText n
  | .negSucc n => "-" ++ natText (n + 1)

/-- The value of an ASCII decimal digit. -/
def digitValue? (c : Char) : Option Nat :=
  if '0' ≤ c ∧ c ≤ '9' then some (c.toNat - '0'.toNat) else none

/-- Why a text is not a 32-bit integer. -/
inductive IntFault
  | empty
  | invalidDigit
  | tooLarge
  | tooSmall
  deriving DecidableEq, Repr

/-- The text of a fault. -/
def IntFault.message : IntFault → String
  | .empty => "cannot parse integer from empty string"
  | .invalidDigit => "invalid digit found in string"
  | .tooLarge => "number too large to fit in target type"
  | .tooSmall => "number too small to fit in target type"

/-- The value of the digits after `acc`, up to `limit`; a value past it is the fault `past`. -/
def readDigits (limit : Nat) (past : IntFault) (acc : Nat) : List Char → Except IntFault Nat
  | [] => .ok acc
  | c :: r =>
      match digitValue? c with
      | none => .error .invalidDigit
      | some d =>
          if limit < acc * 10 + d then .error past else readDigits limit past (acc * 10 + d) r

/-- The greatest size of a negative 32-bit integer; that of a positive one is smaller by one. -/
def int32Limit : Nat := 2147483648

/-- The integer that the characters denote. -/
def readIntChars : List Char → Except IntFault Int
  | [] => .error .empty
  | ['+'] => .error .invalidDigit
  | ['-'] => .error .invalidDigit
  | '-' :: ds => (readDigits int32Limit .tooSmall 0 ds).map fun n => -(n : Int)
  | '+' :: ds => (readDigits (int32Limit - 1) .tooLarge 0 ds).map fun n => (n : Int)
  | ds => (readDigits (int32Limit - 1) .tooLarge 0 ds).map fun n => (n : Int)

/-- The 32-bit integer that a text denotes: an optional sign and at least one digit. -/
def readInt32 (s : String) : Except IntFault Int32 :=
  (readIntChars s.toList).map Int32.ofInt

end ZoneKeeper.Text
