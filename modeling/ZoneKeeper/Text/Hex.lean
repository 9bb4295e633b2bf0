/-
**Hexadecimal digits.**

Main definitions:

* `ZoneKeeper.Text.hexDigit` — the upper-case digit of a value below 16;
* `ZoneKeeper.Text.hexValue?` — the value of a digit of either case.

Main results:

* `ZoneKeeper.Text.hexValue?_hexDigit` — a digit reads back as its value.
-/

set_option autoImplicit false

namespace ZoneKeeper.Text

/-- The upper-case hexadecimal digit of a value below 16. -/
def hexDigit (n : Nat) : Char :=
  if n < 10 then Char.ofNat ('0'.toNat + n) else Char.ofNat ('A'.toNat + (n - 10))

/-- The value of a hexadecimal digit of either case. -/
def hexValue? (c : Char) : Option Nat :=
  if '0' ≤ c ∧ c ≤ '9' then some (c.toNat - '0'.toNat)
  else if 'a' ≤ c ∧ c ≤ 'f' then some (c.toNat - 'a'.toNat + 10)
  else if 'A' ≤ c ∧ c ≤ 'F' then some (c.toNat - 'A'.toNat + 10)
  else none

/-- A digit reads back as its value. -/
theorem hexValue?_hexDigit (n : Nat) (h : n < 16) : hexValue? (hexDigit n) = some n := by
  have all : ∀ k : Fin 16, hexValue? (hexDigit k.val) = some k.val := by decide
  exact all ⟨n, h⟩

end ZoneKeeper.Text
