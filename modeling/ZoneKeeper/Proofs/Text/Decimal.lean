/-
**Which texts are decimal numerals.**

Reading goes from the left and stops at the first character that is no digit and at the first digit
that takes the value out of range.  Since the value only grows along the digits, this is the same as
asking for digits alone and for their value to be in range, in either order.  The grammar below says
what a text denotes without any of that.

Main definitions:

* `ZoneKeeper.Text.IsNumeral` — decimal digits, at least one;
* `ZoneKeeper.Text.DenotesInt` — the integer that an optional sign and a numeral denote;
* `ZoneKeeper.Text.DenotesInt32` — the same, for an integer between the bounds of 32 bits.

Main results:

* `ZoneKeeper.Text.readDigits_eq_ok_iff` — what a limited reading of digits yields;
* `ZoneKeeper.Text.readInt32_eq_ok_iff` — **a 32-bit integer is read exactly from the texts that
  denote it**;
* `ZoneKeeper.Text.eq_digits_of_isNumeral` — a numeral without a leading zero is the text of its value.
-/

import ZoneKeeper.Text.Decimal

set_option autoImplicit false

namespace ZoneKeeper.Text

/-! ### Digits -/

/-- The value of a digit is its distance from zero. -/
theorem digitValue?_eq_some_iff {c : Char} {d : Nat} :
    digitValue? c = some d ↔ c.isDigit = true ∧ d = c.toNat - '0'.toNat := by
  have hdigit : ('0' ≤ c ∧ c ≤ '9') ↔ c.isDigit = true := by
    simp only [Char.isDigit, Bool.and_eq_true, decide_eq_true_eq]
    rfl
  rw [digitValue?]
  by_cases h : '0' ≤ c ∧ c ≤ '9'
  · rw [if_pos h, Option.some.injEq]
    exact ⟨fun hd => ⟨hdigit.1 h, hd.symm⟩, fun hd => hd.2.symm⟩
  · rw [if_neg h]
    exact iff_of_false (fun hd => nomatch hd) fun hd => h (hdigit.2 hd.1)

/-- The value does not fall along digits. -/
theorem le_ofDigitChars (cs : List Char) (acc : Nat) : acc ≤ Nat.ofDigitChars 10 cs acc := by
  induction cs generalizing acc with
  | nil => exact Nat.le_refl acc
  | cons c cs ih =>
      rw [Nat.ofDigitChars_cons]
      have hrest := ih (10 * acc + (c.toNat - '0'.toNat))
      omega

/-- **What a limited reading of digits yields**: their value, if there are only digits and the value
is within the limit. -/
theorem readDigits_eq_ok_iff {limit : Nat} {past : IntFault} {cs : List Char} {acc n : Nat}
    (hacc : acc ≤ limit) :
    readDigits limit past acc cs = .ok n ↔
      (∀ c ∈ cs, c.isDigit = true) ∧ n = Nat.ofDigitChars 10 cs acc ∧ n ≤ limit := by
  induction cs generalizing acc with
  | nil =>
      rw [readDigits, Except.ok.injEq, Nat.ofDigitChars_nil]
      constructor
      · rintro rfl
        exact ⟨List.forall_mem_nil _, rfl, hacc⟩
      · rintro ⟨-, rfl, -⟩
        rfl
  | cons c cs ih =>
      rw [readDigits, Nat.ofDigitChars_cons, List.forall_mem_cons]
      cases hc : digitValue? c with
      | none =>
          refine iff_of_false (fun h => nomatch h) ?_
          rintro ⟨⟨hdigit, -⟩, -⟩
          cases hc.symm.trans (digitValue?_eq_some_iff.2 ⟨hdigit, rfl⟩)
      | some d =>
          obtain ⟨hdigit, rfl⟩ := digitValue?_eq_some_iff.1 hc
          dsimp only
          rw [Nat.mul_comm acc 10]
          by_cases hpast : limit < 10 * acc + (c.toNat - '0'.toNat)
          · -- the value past the limit does not fall back
            rw [if_pos hpast]
            refine iff_of_false (fun h => nomatch h) ?_
            rintro ⟨-, rfl, hn⟩
            have hle := le_ofDigitChars cs (10 * acc + (c.toNat - '0'.toNat))
            omega
          · rw [if_neg hpast, ih (Nat.not_lt.1 hpast)]
            simp only [hdigit, true_and]

/-! ### Integers -/

/-- Decimal digits, at least one. -/
def IsNumeral (cs : List Char) : Prop :=
  cs ≠ [] ∧ ∀ c ∈ cs, c.isDigit = true

/-- The integer that the characters denote: an optional sign and a numeral. -/
inductive DenotesInt : List Char → Int → Prop
  | bare {ds : List Char} (h : IsNumeral ds) : DenotesInt ds (Nat.ofDigitChars 10 ds 0)
  | plus {ds : List Char} (h : IsNumeral ds) : DenotesInt ('+' :: ds) (Nat.ofDigitChars 10 ds 0)
  | minus {ds : List Char} (h : IsNumeral ds) :
      DenotesInt ('-' :: ds) (-(Nat.ofDigitChars 10 ds 0 : Int))

/-- The characters denote an integer between the bounds of 32 bits. -/
def DenotesInt32 (cs : List Char) (z : Int) : Prop :=
  DenotesInt cs z ∧ -(int32Limit : Int) ≤ z ∧ z < int32Limit

theorem not_isNumeral_cons {c : Char} (hc : c.isDigit = false) (ds : List Char) :
    ¬ IsNumeral (c :: ds) := by
  intro h
  cases hc.symm.trans (h.2 c List.mem_cons_self)

theorem denotesInt_plus_iff {ds : List Char} {z : Int} :
    DenotesInt ('+' :: ds) z ↔ IsNumeral ds ∧ z = Nat.ofDigitChars 10 ds 0 := by
  constructor
  · intro h
    cases h with
    | bare h => exact absurd h (not_isNumeral_cons rfl ds)
    | plus h => exact ⟨h, rfl⟩
  · rintro ⟨h, rfl⟩
    exact .plus h

theorem denotesInt_minus_iff {ds : List Char} {z : Int} :
    DenotesInt ('-' :: ds) z ↔ IsNumeral ds ∧ z = -(Nat.ofDigitChars 10 ds 0 : Int) := by
  constructor
  · intro h
    cases h with
    | bare h => exact absurd h (not_isNumeral_cons rfl ds)
    | minus h => exact ⟨h, rfl⟩
  · rintro ⟨h, rfl⟩
    exact .minus h

theorem denotesInt_bare_iff {c : Char} {ds : List Char} {z : Int} (hplus : c ≠ '+')
    (hminus : c ≠ '-') :
    DenotesInt (c :: ds) z ↔ IsNumeral (c :: ds) ∧ z = Nat.ofDigitChars 10 (c :: ds) 0 := by
  constructor
  · intro h
    cases h with
    | bare h => exact ⟨h, rfl⟩
    | plus h => exact absurd rfl hplus
    | minus h => exact absurd rfl hminus
  · rintro ⟨h, rfl⟩
    exact .bare h

/-! ### Reading integers -/

theorem readIntChars_plus {ds : List Char} (h : ds ≠ []) :
    readIntChars ('+' :: ds) =
      (readDigits (int32Limit - 1) .tooLarge 0 ds).map fun n : Nat => (n : Int) := by
  rw [readIntChars]
  · cases readDigits (int32Limit - 1) .tooLarge 0 ds with
    | error fault | ok n => rfl
  · exact h

theorem readIntChars_minus {ds : List Char} (h : ds ≠ []) :
    readIntChars ('-' :: ds) =
      (readDigits int32Limit .tooSmall 0 ds).map fun n : Nat => -(n : Int) := by
  rw [readIntChars]
  · cases readDigits int32Limit .tooSmall 0 ds with
    | error fault | ok n => rfl
  · exact h

theorem readIntChars_bare {c : Char} {ds : List Char} (hplus : c ≠ '+') (hminus : c ≠ '-') :
    readIntChars (c :: ds) =
      (readDigits (int32Limit - 1) .tooLarge 0 (c :: ds)).map fun n : Nat => (n : Int) := by
  rw [readIntChars]
  · cases readDigits (int32Limit - 1) .tooLarge 0 (c :: ds) with
    | error fault | ok n => rfl
  all_goals simp [hplus, hminus]

theorem map_readDigits_eq_ok_iff {limit : Nat} {past : IntFault} {ds : List Char} (hds : ds ≠ [])
    {f : Nat → Int} {z : Int} :
    (readDigits limit past 0 ds).map f = .ok z ↔
      IsNumeral ds ∧ Nat.ofDigitChars 10 ds 0 ≤ limit ∧ z = f (Nat.ofDigitChars 10 ds 0) := by
  have hread : ∀ n, readDigits limit past 0 ds = .ok n ↔
      (∀ c ∈ ds, c.isDigit = true) ∧ n = Nat.ofDigitChars 10 ds 0 ∧ n ≤ limit :=
    fun n => readDigits_eq_ok_iff (Nat.zero_le limit)
  cases hr : readDigits limit past 0 ds with
  | error fault =>
      refine iff_of_false (fun h => nomatch h) ?_
      rintro ⟨h, hle, -⟩
      cases hr.symm.trans ((hread _).2 ⟨h.2, rfl, hle⟩)
  | ok n =>
      obtain ⟨hdigits, rfl, hle⟩ := (hread n).1 hr
      constructor
      · intro h
        exact ⟨⟨hds, hdigits⟩, hle, (Except.ok.inj h).symm⟩
      · rintro ⟨-, -, rfl⟩
        rfl

/-- The integers that are read are those in range that the characters denote. -/
theorem readIntChars_eq_ok_iff {cs : List Char} {z : Int} :
    readIntChars cs = .ok z ↔ DenotesInt32 cs z := by
  have hlimit : int32Limit = 2147483648 := rfl
  rw [DenotesInt32]
  cases cs with
  | nil =>
      refine iff_of_false (fun h => nomatch h) ?_
      rintro ⟨h, -⟩
      cases h with
      | bare h => exact h.1 rfl
  | cons c ds =>
      by_cases hplus : c = '+'
      · subst hplus
        rw [denotesInt_plus_iff]
        by_cases hds : ds = []
        · subst hds
          exact iff_of_false (fun h => nomatch h) fun h => h.1.1.1 rfl
        · rw [readIntChars_plus hds, map_readDigits_eq_ok_iff hds]
          constructor
          · rintro ⟨h, hle, rfl⟩
            exact ⟨⟨h, rfl⟩, by omega, by omega⟩
          · rintro ⟨⟨h, rfl⟩, -, hlt⟩
            exact ⟨h, by omega, rfl⟩
      · by_cases hminus : c = '-'
        · subst hminus
          rw [denotesInt_minus_iff]
          by_cases hds : ds = []
          · subst hds
            exact iff_of_false (fun h => nomatch h) fun h => h.1.1.1 rfl
          · rw [readIntChars_minus hds, map_readDigits_eq_ok_iff hds]
            constructor
            · rintro ⟨h, hle, rfl⟩
              exact ⟨⟨h, rfl⟩, by omega, by omega⟩
            · rintro ⟨⟨h, rfl⟩, hge, -⟩
              exact ⟨h, by omega, rfl⟩
        · rw [denotesInt_bare_iff hplus hminus, readIntChars_bare hplus hminus,
            map_readDigits_eq_ok_iff (List.cons_ne_nil c ds)]
          constructor
          · rintro ⟨h, hle, rfl⟩
            exact ⟨⟨h, rfl⟩, by omega, by omega⟩
          · rintro ⟨⟨h, rfl⟩, -, hlt⟩
            exact ⟨h, by omega, rfl⟩

/-- **A 32-bit integer is read exactly from the texts that denote it**: an optional sign and at least
one digit, with the value in range. -/
theorem readInt32_eq_ok_iff {s : String} {n : Int32} :
    readInt32 s = .ok n ↔ DenotesInt s.toList n.toInt := by
  rw [readInt32]
  cases hr : readIntChars s.toList with
  | error fault =>
      refine iff_of_false (fun h => nomatch h) fun h => ?_
      cases hr.symm.trans (readIntChars_eq_ok_iff.2 ⟨h, n.le_toInt, n.toInt_lt⟩)
  | ok z =>
      obtain ⟨hz, hlow, hhigh⟩ := readIntChars_eq_ok_iff.1 hr
      constructor
      · intro h
        obtain rfl := Except.ok.inj h
        rw [Int32.toInt_ofInt_of_le hlow hhigh]
        exact hz
      · intro h
        have hread := readIntChars_eq_ok_iff.2 ⟨h, n.le_toInt, n.toInt_lt⟩
        obtain rfl : z = n.toInt := Except.ok.inj (hr.symm.trans hread)
        exact congrArg Except.ok n.ofInt_toInt

/-! ### Numerals without a leading zero -/

theorem digitChar_of_isDigit {c : Char} (hc : c.isDigit = true) :
    c.toNat - '0'.toNat < 10 ∧ Nat.digitChar (c.toNat - '0'.toNat) = c := by
  simp only [Char.isDigit, Bool.and_eq_true, decide_eq_true_eq, ge_iff_le,
    UInt32.le_iff_toNat_le] at hc
  have hlow : 48 ≤ c.toNat := hc.1
  have hhigh : c.toNat ≤ 57 := hc.2
  have hlt : c.toNat - '0'.toNat < 10 := by
    change c.toNat - 48 < 10
    omega
  refine ⟨hlt, Char.toNat_inj.1 ?_⟩
  rw [Nat.toNat_digitChar_of_lt_ten hlt]
  change 48 + (c.toNat - 48) = c.toNat
  omega

/-- Digits behind those of a positive number make the digits of a number. -/
theorem toDigits_append {acc : Nat} (hacc : 0 < acc) {cs : List Char}
    (h : ∀ c ∈ cs, c.isDigit = true) :
    Nat.toDigits 10 acc ++ cs = Nat.toDigits 10 (Nat.ofDigitChars 10 cs acc) := by
  induction cs generalizing acc with
  | nil => simp
  | cons c cs ih =>
      obtain ⟨hc, hcs⟩ := List.forall_mem_cons.1 h
      obtain ⟨hlt, hchar⟩ := digitChar_of_isDigit hc
      have hnext : Nat.toDigits 10 acc ++ [c] =
          Nat.toDigits 10 (10 * acc + (c.toNat - '0'.toNat)) := by
        rw [← Nat.toDigits_append_toDigits (by decide) hacc hlt, Nat.toDigits_of_lt_base hlt, hchar]
      rw [List.append_cons, hnext, Nat.ofDigitChars_cons]
      exact ih (by omega) hcs

/-- **A numeral without a leading zero is the text of its value.** -/
theorem eq_digits_of_isNumeral {cs : List Char} (h : IsNumeral cs)
    (hzero : cs.head? = some '0' → cs = ['0']) : cs = digits (Nat.ofDigitChars 10 cs 0) := by
  rw [digits]
  cases cs with
  | nil => exact absurd rfl h.1
  | cons c cs =>
      obtain ⟨hc, hcs⟩ := List.forall_mem_cons.1 h.2
      by_cases hc0 : c = '0'
      · subst hc0
        rw [hzero rfl]
        rfl
      · obtain ⟨hlt, hchar⟩ := digitChar_of_isDigit hc
        have hpos : 0 < c.toNat - '0'.toNat := by
          refine Nat.pos_of_ne_zero fun hz => hc0 ?_
          rw [← hchar, hz]
          rfl
        rw [Nat.ofDigitChars_cons, Nat.mul_zero, Nat.zero_add, ← toDigits_append hpos hcs,
          Nat.toDigits_of_lt_base hlt, hchar]
        rfl

end ZoneKeeper.Text
