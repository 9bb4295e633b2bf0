/-
**The dotted quad is the only text of an address.**

An octet has one numeral without leading zeros, and the dots are where the text is cut, so a text
that can be read at all is the one that the address is written as.

Main results:

* `ZoneKeeper.Address.octet?_eq_some_iff` — an octet is read exactly from its digits;
* `ZoneKeeper.Address.parse?_eq_some_iff` — **an address is read exactly from its text**.
-/

import ZoneKeeper.Address
import ZoneKeeper.Proofs.Text.Decimal

set_option autoImplicit false

namespace ZoneKeeper.Address

open ZoneKeeper.Text

/-! ### Octets -/

theorem digitsValue?_eq_some_iff {cs : List Char} {acc n : Nat} :
    digitsValue? acc cs = some n ↔
      (∀ c ∈ cs, c.isDigit = true) ∧ n = Nat.ofDigitChars 10 cs acc := by
  induction cs generalizing acc with
  | nil =>
      rw [digitsValue?, Option.some.injEq, Nat.ofDigitChars_nil]
      constructor
      · rintro rfl
        exact ⟨List.forall_mem_nil _, rfl⟩
      · rintro ⟨-, rfl⟩
        rfl
  | cons c cs ih =>
      rw [digitsValue?, List.forall_mem_cons, Nat.ofDigitChars_cons]
      cases hc : digitValue? c with
      | none =>
          refine iff_of_false (fun h => nomatch h) ?_
          rintro ⟨⟨hdigit, -⟩, -⟩
          cases hc.symm.trans (digitValue?_eq_some_iff.2 ⟨hdigit, rfl⟩)
      | some d =>
          obtain ⟨hdigit, rfl⟩ := digitValue?_eq_some_iff.1 hc
          dsimp only
          rw [ih, Nat.mul_comm acc 10]
          simp only [hdigit, true_and]

theorem octet?_digits (o : UInt8) : octet? (digits o.toNat) = some o := by
  have hall : ∀ n < 256, octet? (digits n) = some (UInt8.ofNat n) := by decide +kernel
  rw [hall o.toNat o.toNat_lt, UInt8.ofNat_toNat]

/-- **An octet is read exactly from its digits.** -/
theorem octet?_eq_some_iff {cs : List Char} {o : UInt8} :
    octet? cs = some o ↔ cs = digits o.toNat := by
  constructor
  · intro h
    rw [octet?] at h
    split at h
    · cases h
    · next hshape =>
        rw [not_or, not_or] at hshape
        obtain ⟨hne, -, hzero⟩ := hshape
        cases hvalue : digitsValue? 0 cs with
        | none => simp [hvalue] at h
        | some n =>
            obtain ⟨hdigits, rfl⟩ := digitsValue?_eq_some_iff.1 hvalue
            rw [hvalue] at h
            dsimp only at h
            split at h
            · next hlt =>
                obtain rfl := Option.some.inj h
                rw [UInt8.toNat_ofNat_of_lt' hlt]
                refine eq_digits_of_isNumeral ⟨hne, hdigits⟩ fun hhead => ?_
                exact Decidable.not_not.1 fun hcs => hzero ⟨hhead, hcs⟩
            · cases h
  · rintro rfl
    exact octet?_digits o

/-! ### Addresses -/

theorem dot_not_mem_digits (n : Nat) : '.' ∉ digits n := by
  intro h
  cases Nat.isDigit_of_mem_toDigits (by decide) (by decide) h

theorem fields_chars (x : Address) :
    fields '.' x.chars = x.octets.map fun o => digits o.toNat := by
  refine fields_joinFields (by simp [octets]) ?_
  intro f hf
  obtain ⟨o, -, rfl⟩ := List.mem_map.1 hf
  exact dot_not_mem_digits o.toNat

/-- **An address is read exactly from its text.** -/
theorem parse?_eq_some_iff {s : String} {x : Address} : parse? s = some x ↔ s = x.text := by
  rw [parse?, parseChars?]
  constructor
  · intro h
    split at h
    · next p q r t hfields =>
        split at h
        · next a b c d hp hq hr ht =>
            obtain rfl := Option.some.inj h
            rw [octet?_eq_some_iff] at hp hq hr ht
            have hjoin := joinFields_fields '.' s.toList
            rw [hfields, hp, hq, hr, ht] at hjoin
            rw [text, chars, octets, ← String.toList_inj, String.toList_ofList]
            exact hjoin.symm
        · cases h
    · cases h
  · rintro rfl
    rw [text, String.toList_ofList, fields_chars]
    simp only [octets, List.map_cons, List.map_nil, octet?_digits]

end ZoneKeeper.Address
