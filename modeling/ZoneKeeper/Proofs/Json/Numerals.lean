/-
**The numerals that are read.**

A numeral is read one byte at a time, and all that is kept is how much of it has been read.  Its
grammar is the usual one: a sign, a whole number without a leading zero, a fraction and an exponent,
of which only the whole number has to be there.  Each phase of the reading stands for the part of the
grammar that is still to come, so that taking one byte is taking the first byte off that part.

Main definitions:

* `ZoneKeeper.Json.IsNumeral` — the grammar of numerals;
* `ZoneKeeper.Json.Phase.Finishes` — the bytes that finish a numeral from a phase.

Main results:

* `ZoneKeeper.Json.Phase.finishes_nil_iff`, `ZoneKeeper.Json.Phase.finishes_cons_iff` — what finishes
  a numeral, byte by byte;
* `ZoneKeeper.Json.isNumeral_cons_iff` — **a numeral is a byte that begins one and the bytes that
  finish it from there**.
-/

import ZoneKeeper.Json.Token

set_option autoImplicit false

namespace ZoneKeeper.Json

/-! ### The grammar -/

/-- Decimal digits, or nothing. -/
def AreDigits (bs : List UInt8) : Prop := ∀ b ∈ bs, isDigitByte b = true

/-- A whole number: a zero, or digits that do not begin with one. -/
inductive IsWhole : List UInt8 → Prop
  | zero : IsWhole ['0'.toUInt8]
  | digits {b : UInt8} {bs : List UInt8} (hdigit : isDigitByte b = true) (hne : b ≠ '0'.toUInt8)
      (h : AreDigits bs) : IsWhole (b :: bs)

/-- A fraction, or nothing. -/
inductive IsFraction : List UInt8 → Prop
  | nothing : IsFraction []
  | digits {bs : List UInt8} (hne : bs ≠ []) (h : AreDigits bs) : IsFraction ('.'.toUInt8 :: bs)

/-- The digits of an exponent with their sign, if they have one. -/
inductive IsSigned : List UInt8 → Prop
  | digits {bs : List UInt8} (hne : bs ≠ []) (h : AreDigits bs) : IsSigned bs
  | sign {b : UInt8} {bs : List UInt8} (hsign : b = '+'.toUInt8 ∨ b = '-'.toUInt8) (hne : bs ≠ [])
      (h : AreDigits bs) : IsSigned (b :: bs)

/-- An exponent, or nothing. -/
inductive IsExponent : List UInt8 → Prop
  | nothing : IsExponent []
  | mark {b : UInt8} {bs : List UInt8} (hmark : isExponentMark b = true) (h : IsSigned bs) :
      IsExponent (b :: bs)

/-- A number without a sign. -/
inductive IsUnsigned : List UInt8 → Prop
  | mk {whole fraction exponent : List UInt8} (hwhole : IsWhole whole)
      (hfraction : IsFraction fraction) (hexponent : IsExponent exponent) :
      IsUnsigned (whole ++ (fraction ++ exponent))

/-- A numeral. -/
inductive IsNumeral : List UInt8 → Prop
  | plain {bs : List UInt8} (h : IsUnsigned bs) : IsNumeral bs
  | minus {bs : List UInt8} (h : IsUnsigned bs) : IsNumeral ('-'.toUInt8 :: bs)

/-! ### Digits and marks -/

section

variable {b : UInt8} {bs : List UInt8}

theorem areDigits_nil : AreDigits [] := List.forall_mem_nil _

theorem areDigits_cons_iff : AreDigits (b :: bs) ↔ isDigitByte b = true ∧ AreDigits bs :=
  List.forall_mem_cons

theorem isExponentMark_iff : isExponentMark b = true ↔ b = 'e'.toUInt8 ∨ b = 'E'.toUInt8 := by
  rw [isExponentMark, Bool.or_eq_true, beq_iff_eq, beq_iff_eq]

theorem not_isDigitByte_of_point (h : b = '.'.toUInt8) : ¬ isDigitByte b = true := by
  rw [h]
  decide

theorem not_isDigitByte_of_mark (h : isExponentMark b = true) : ¬ isDigitByte b = true := by
  rcases isExponentMark_iff.1 h with rfl | rfl <;> decide

theorem ne_point_of_mark (h : isExponentMark b = true) : b ≠ '.'.toUInt8 := by
  rcases isExponentMark_iff.1 h with rfl | rfl <;> decide

theorem not_isDigitByte_of_sign (h : b = '+'.toUInt8 ∨ b = '-'.toUInt8) :
    ¬ isDigitByte b = true := by
  rcases h with rfl | rfl <;> decide

end

/-! ### Phases -/

/-- What follows the whole part: a fraction and an exponent. -/
def IsTail (bs : List UInt8) : Prop :=
  ∃ fraction exponent, IsFraction fraction ∧ IsExponent exponent ∧ bs = fraction ++ exponent

/-- The bytes are digits with something of another kind behind them. -/
def DigitsThen (P : List UInt8 → Prop) (bs : List UInt8) : Prop :=
  ∃ digits more, AreDigits digits ∧ P more ∧ bs = digits ++ more

/-- The bytes that finish a numeral from the phase. -/
def Phase.Finishes : Phase → List UInt8 → Prop
  | .minus => IsUnsigned
  | .zero => IsTail
  | .whole => DigitsThen IsTail
  | .point => fun bs => ∃ b more, isDigitByte b = true ∧ DigitsThen IsExponent more ∧ bs = b :: more
  | .fraction => DigitsThen IsExponent
  | .exponentMark => IsSigned
  | .exponentSign => fun bs => bs ≠ [] ∧ AreDigits bs
  | .exponent => AreDigits

theorem DigitsThen.cons {P : List UInt8 → Prop} {b : UInt8} {bs : List UInt8}
    (hb : isDigitByte b = true) (h : DigitsThen P bs) : DigitsThen P (b :: bs) := by
  obtain ⟨digits, more, hdigits, hmore, rfl⟩ := h
  exact ⟨b :: digits, more, areDigits_cons_iff.2 ⟨hb, hdigits⟩, hmore, rfl⟩

theorem DigitsThen.nil {P : List UInt8 → Prop} {bs : List UInt8} (h : P bs) : DigitsThen P bs :=
  ⟨[], bs, areDigits_nil, h, rfl⟩

/-- Digits with something behind them begin with a digit, or with what is behind them. -/
theorem digitsThen_cons_iff {P : List UInt8 → Prop} {b : UInt8} {bs : List UInt8} :
    DigitsThen P (b :: bs) ↔ isDigitByte b = true ∧ DigitsThen P bs ∨ P (b :: bs) := by
  constructor
  · rintro ⟨digits, more, hdigits, hmore, heq⟩
    cases digits with
    | nil =>
        obtain rfl : b :: bs = more := heq
        exact .inr hmore
    | cons d digits =>
        obtain ⟨rfl, rfl⟩ := List.cons.inj heq
        obtain ⟨hb, hdigits⟩ := areDigits_cons_iff.1 hdigits
        exact .inl ⟨hb, digits, more, hdigits, hmore, rfl⟩
  · rintro (⟨hb, h⟩ | h)
    · exact h.cons hb
    · exact .nil h

theorem isExponent_cons_iff {b : UInt8} {bs : List UInt8} :
    IsExponent (b :: bs) ↔ isExponentMark b = true ∧ IsSigned bs := by
  refine ⟨fun h => ?_, fun h => .mark h.1 h.2⟩
  cases h with
  | mark hmark h => exact ⟨hmark, h⟩

/-- A tail begins with a point and the digits of a fraction, or with an exponent. -/
theorem isTail_cons_iff {b : UInt8} {bs : List UInt8} :
    IsTail (b :: bs) ↔ b = '.'.toUInt8 ∧ Phase.point.Finishes bs ∨ IsExponent (b :: bs) := by
  constructor
  · rintro ⟨fraction, exponent, hfraction, hexponent, heq⟩
    cases hfraction with
    | nothing =>
        obtain rfl : b :: bs = exponent := heq
        exact .inr hexponent
    | @digits digits hne hdigits =>
        obtain ⟨rfl, rfl⟩ := List.cons.inj heq
        obtain ⟨d, ds, rfl⟩ := List.exists_cons_of_ne_nil hne
        obtain ⟨hd, hds⟩ := areDigits_cons_iff.1 hdigits
        exact .inl ⟨rfl, d, ds ++ exponent, hd, ⟨ds, exponent, hds, hexponent, rfl⟩, rfl⟩
  · rintro (⟨rfl, d, more, hd, ⟨ds, exponent, hds, hexponent, rfl⟩, rfl⟩ | h)
    · exact ⟨_, exponent, .digits (List.cons_ne_nil d ds) (areDigits_cons_iff.2 ⟨hd, hds⟩),
        hexponent, rfl⟩
    · exact ⟨[], _, .nothing, h, rfl⟩

theorem isTail_nil : IsTail [] := ⟨[], [], .nothing, .nothing, rfl⟩

/-- A number without a sign begins with a zero that is all of its whole part, or with another
digit. -/
theorem isUnsigned_cons_iff {b : UInt8} {bs : List UInt8} :
    IsUnsigned (b :: bs) ↔
      b = '0'.toUInt8 ∧ IsTail bs ∨
        (isDigitByte b = true ∧ b ≠ '0'.toUInt8) ∧ DigitsThen IsTail bs := by
  constructor
  · generalize heq : b :: bs = all
    rintro ⟨hwhole, hfraction, hexponent⟩
    cases hwhole with
    | zero =>
        obtain ⟨rfl, rfl⟩ := List.cons.inj heq
        exact .inl ⟨rfl, _, _, hfraction, hexponent, rfl⟩
    | digits hdigit hne h =>
        obtain ⟨rfl, rfl⟩ := List.cons.inj heq
        exact .inr ⟨⟨hdigit, hne⟩, _, _, h, ⟨_, _, hfraction, hexponent, rfl⟩, rfl⟩
  · rintro (⟨rfl, _, _, hfraction, hexponent, rfl⟩ |
      ⟨⟨hdigit, hne⟩, _, _, h, ⟨_, _, hfraction, hexponent, rfl⟩, rfl⟩)
    · exact .mk .zero hfraction hexponent
    · exact .mk (.digits hdigit hne h) hfraction hexponent

theorem not_isUnsigned_nil : ¬ IsUnsigned [] := by
  generalize heq : [] = all
  rintro ⟨hwhole, -, -⟩
  cases hwhole with
  | zero | digits => cases heq

theorem isSigned_cons_iff {b : UInt8} {bs : List UInt8} :
    IsSigned (b :: bs) ↔
      isDigitByte b = true ∧ AreDigits bs ∨
        (b = '+'.toUInt8 ∨ b = '-'.toUInt8) ∧ bs ≠ [] ∧ AreDigits bs := by
  constructor
  · intro h
    cases h with
    | digits _ h => exact .inl (areDigits_cons_iff.1 h)
    | sign hsign hne h => exact .inr ⟨hsign, hne, h⟩
  · rintro (h | ⟨hsign, hne, h⟩)
    · exact .digits (List.cons_ne_nil _ _) (areDigits_cons_iff.2 h)
    · exact .sign hsign hne h

namespace Phase

theorem finishes_point_cons_iff {b : UInt8} {bs : List UInt8} :
    point.Finishes (b :: bs) ↔ isDigitByte b = true ∧ DigitsThen IsExponent bs := by
  constructor
  · rintro ⟨d, more, hd, hmore, heq⟩
    obtain ⟨rfl, rfl⟩ := List.cons.inj heq
    exact ⟨hd, hmore⟩
  · rintro ⟨hb, h⟩
    exact ⟨b, bs, hb, h, rfl⟩

/-- A numeral is finished exactly in the final phases. -/
theorem finishes_nil_iff {p : Phase} : p.Finishes [] ↔ p.isFinal = true := by
  cases p with
  | minus => exact iff_of_false not_isUnsigned_nil Bool.false_ne_true
  | zero => exact iff_of_true isTail_nil rfl
  | whole => exact iff_of_true (.nil isTail_nil) rfl
  | point => exact iff_of_false (fun ⟨_, _, _, _, heq⟩ => nomatch heq) Bool.false_ne_true
  | fraction => exact iff_of_true (.nil .nothing) rfl
  | exponentMark =>
      refine iff_of_false (fun h => ?_) Bool.false_ne_true
      cases h with
      | digits hne _ => exact hne rfl
  | exponentSign => exact iff_of_false (fun h => h.1 rfl) Bool.false_ne_true
  | exponent => exact iff_of_true areDigits_nil rfl

section

variable {c : Prop} [Decidable c] {p : Phase} {other : Option Phase} {b : UInt8} {bs : List UInt8}

/-- The only test that the byte can pass. -/
theorem exists_ite_none_iff :
    (∃ q, (if c then some p else none) = some q ∧ q.Finishes bs) ↔ c ∧ p.Finishes bs := by
  by_cases hc : c
  · simp [hc]
  · simp [hc]

/-- A test with others behind it, none of which a byte passes that passes it. -/
theorem exists_ite_iff {P : Prop} (hother : (∃ q, other = some q ∧ q.Finishes bs) ↔ P)
    (hP : P → ¬ c) :
    (∃ q, (if c then some p else other) = some q ∧ q.Finishes bs) ↔ c ∧ p.Finishes bs ∨ P := by
  by_cases hc : c
  · have hnot : ¬ P := fun h => hP h hc
    simp [hc, hnot]
  · simp [hc, hother]

/-- What finishes a numeral from a phase is a byte that leads to another phase, and what finishes it
from there. -/
theorem finishes_cons_iff :
    p.Finishes (b :: bs) ↔ ∃ q, p.next? b = some q ∧ q.Finishes bs := by
  cases p with
  | minus =>
      simp only [next?]
      by_cases hzero : b = '0'.toUInt8
      · rw [if_pos hzero]
        refine isUnsigned_cons_iff.trans ?_
        simp [hzero, Finishes]
      · rw [if_neg hzero, exists_ite_none_iff]
        refine isUnsigned_cons_iff.trans ?_
        simp [hzero, Finishes]
  | zero =>
      simp only [next?]
      rw [exists_ite_iff exists_ite_none_iff fun h => ne_point_of_mark h.1]
      exact isTail_cons_iff.trans (or_congr_right isExponent_cons_iff)
  | whole =>
      have hother : b = '.'.toUInt8 ∧ point.Finishes bs ∨
          isExponentMark b = true ∧ exponentMark.Finishes bs → ¬ isDigitByte b = true := by
        rintro (h | h)
        · exact not_isDigitByte_of_point h.1
        · exact not_isDigitByte_of_mark h.1
      simp only [next?]
      rw [exists_ite_iff (exists_ite_iff exists_ite_none_iff fun h => ne_point_of_mark h.1) hother]
      exact digitsThen_cons_iff.trans (or_congr_right
        (isTail_cons_iff.trans (or_congr_right isExponent_cons_iff)))
  | point =>
      simp only [next?]
      rw [exists_ite_none_iff]
      exact finishes_point_cons_iff
  | fraction =>
      simp only [next?]
      rw [exists_ite_iff exists_ite_none_iff fun h => not_isDigitByte_of_mark h.1]
      exact digitsThen_cons_iff.trans (or_congr_right isExponent_cons_iff)
  | exponentMark =>
      simp only [next?]
      rw [exists_ite_iff exists_ite_none_iff fun h => not_isDigitByte_of_sign h.1]
      exact isSigned_cons_iff
  | exponentSign =>
      simp only [next?]
      rw [exists_ite_none_iff]
      exact (and_iff_right (List.cons_ne_nil b bs)).trans areDigits_cons_iff
  | exponent =>
      simp only [next?]
      rw [exists_ite_none_iff]
      exact areDigits_cons_iff

end

end Phase

/-- **A numeral is a byte that begins one and the bytes that finish it from there.** -/
theorem isNumeral_cons_iff {b : UInt8} {bs : List UInt8} :
    IsNumeral (b :: bs) ↔
      b = '-'.toUInt8 ∧ Phase.minus.Finishes bs ∨ b = '0'.toUInt8 ∧ Phase.zero.Finishes bs ∨
        (isDigitByte b = true ∧ b ≠ '0'.toUInt8) ∧ Phase.whole.Finishes bs := by
  constructor
  · intro h
    cases h with
    | plain h => exact .inr (isUnsigned_cons_iff.1 h)
    | minus h => exact .inl ⟨rfl, h⟩
  · rintro (⟨rfl, h⟩ | h)
    · exact .minus h
    · exact .plain (isUnsigned_cons_iff.2 h)

theorem not_isNumeral_nil : ¬ IsNumeral [] := by
  intro h
  cases h with
  | plain h => exact not_isUnsigned_nil h

end ZoneKeeper.Json
