/-
**The words that a text falls into.**

A text is read one byte at a time, and what is kept in between is what the reading is in the middle
of.  Which texts fall into which words is said here without it: a text is a sequence of words with
white space before, between and after them, and a word is a mark, a literal name, a numeral or a
string literal.  Whatever the reading is in the middle of, the rest of the text has to begin with the
rest of that word; this is what one byte preserves.  The other way round every word is read as that
word.  Only a numeral needs to be told where it ends, and the marks that may follow one tell it.

Main definitions:

* `ZoneKeeper.Json.Literal` — what stands between the quotes of a string literal;
* `ZoneKeeper.Json.Word`, `ZoneKeeper.Json.Words` — one word, and words with white space;
* `ZoneKeeper.Json.Mode.Remains` — what may remain of a text in the middle of something;
* `ZoneKeeper.Json.Separated` — every numeral is followed by a mark that ends it, or by nothing.

Main results:

* `ZoneKeeper.Json.words_of_tokens?` — **a text is read as words that it falls into**;
* `ZoneKeeper.Json.tokens?_of_words` — **a text is read as the words that it falls into**, if each
  numeral is separated from what follows.
-/

import Mathlib.Data.List.Chain
import ZoneKeeper.Proofs.Json.Numerals
import ZoneKeeper.Proofs.Json.Words

set_option autoImplicit false

namespace ZoneKeeper.Json

open ZoneKeeper.Text

/-! ### Words -/

/-- The character that a byte of a numeral is kept as. -/
def byteChar (b : UInt8) : Char := Char.ofNat b.toNat

/-- The value of hexadecimal digits after a value. -/
def hexDigits? (value : Nat) : List UInt8 → Option Nat
  | [] => some value
  | b :: bs => (hexValue? (byteChar b)).bind fun d => hexDigits? (value * 16 + d) bs

/-- What stands between the quotes of a string literal, with its pieces. -/
inductive Literal : List UInt8 → List Piece → Prop
  | nil : Literal [] []
  | plain {b : UInt8} {bs : List UInt8} {ps : List Piece} (hb : IsPlainByte b) (h : Literal bs ps) :
      Literal (b :: bs) (.byte b :: ps)
  | letter {b c : UInt8} {bs : List UInt8} {ps : List Piece} (hb : escapedByte? b = some c)
      (h : Literal bs ps) : Literal ('\\'.toUInt8 :: b :: bs) (.byte c :: ps)
  | unit {hex bs : List UInt8} {u : Nat} {ps : List Piece} (hlength : hex.length = 4)
      (hu : hexDigits? 0 hex = some u) (h : Literal bs ps) :
      Literal ('\\'.toUInt8 :: 'u'.toUInt8 :: (hex ++ bs)) (.unit u :: ps)

/-- The marks. -/
def marks : List (Char × Token) :=
  [('\x7b', .openBrace), ('\x7d', .closeBrace), ('[', .openBracket), (']', .closeBracket),
    (',', .comma), (':', .colon)]

/-- The literal names, with their first letters apart. -/
def names : List (Char × List Char × Token) :=
  [('t', "rue".toList, .bool true), ('f', "alse".toList, .bool false), ('n', "ull".toList, .null)]

/-- The bytes are a word of a text. -/
inductive Word : List UInt8 → Token → Prop
  | mark {c : Char} {t : Token} (h : (c, t) ∈ marks) : Word [c.toUInt8] t
  | name {c : Char} {cs : List Char} {t : Token} (h : (c, cs, t) ∈ names) :
      Word (c.toUInt8 :: cs.map Char.toUInt8) t
  | number {bs : List UInt8} (h : IsNumeral bs) : Word bs (.number (bs.map byteChar))
  | string {bs : List UInt8} {ps : List Piece} (h : Literal bs ps) :
      Word ('"'.toUInt8 :: (bs ++ ['"'.toUInt8])) (.string (piecesText? ps))

/-- The text falls into the words, with white space before, between and after them. -/
inductive Words : List UInt8 → List Token → Prop
  | nil : Words [] []
  | space {b : UInt8} {bs : List UInt8} {ts : List Token} (hb : isSpaceByte b = true)
      (h : Words bs ts) : Words (b :: bs) ts
  | word {w bs : List UInt8} {t : Token} {ts : List Token} (hw : Word w t) (h : Words bs ts) :
      Words (w ++ bs) (t :: ts)

/-! ### What begins a word -/

/-- What a byte between words begins. -/
inductive Begins : UInt8 → List Token → Mode → Prop
  | space {b : UInt8} (h : isSpaceByte b = true) : Begins b [] .between
  | mark {c : Char} {t : Token} (h : (c, t) ∈ marks) : Begins c.toUInt8 [t] .between
  | quote : Begins '"'.toUInt8 [] (.literal [])
  | minus : Begins '-'.toUInt8 [] (.numeral .minus [byteChar '-'.toUInt8])
  | zero : Begins '0'.toUInt8 [] (.numeral .zero [byteChar '0'.toUInt8])
  | digit {b : UInt8} (h : isDigitByte b = true) (hne : b ≠ '0'.toUInt8) :
      Begins b [] (.numeral .whole [byteChar b])
  | name {c : Char} {cs : List Char} {t : Token} (h : (c, cs, t) ∈ names) :
      Begins c.toUInt8 [] (.name (cs.map Char.toUInt8) t)

/-- A test that is passed, or the tests behind it. -/
theorem of_ite_eq_some {α : Type} {c : Prop} [Decidable c] {x a : α} {other : Option α}
    (h : (if c then some x else other) = some a) : c ∧ x = a ∨ ¬ c ∧ other = some a := by
  by_cases hc : c
  · rw [if_pos hc] at h
    exact .inl ⟨hc, Option.some.inj h⟩
  · rw [if_neg hc] at h
    exact .inr ⟨hc, h⟩

/-- A byte that passes a test begins what the test says, or else what the tests behind it say. -/
theorem begins_of_ite {b : UInt8} {c : Prop} [Decidable c] {ts ts' : List Token} {m m' : Mode}
    {other : Option (List Token × Mode)} (hpassed : c → Begins b ts' m')
    (hother : ¬ c → other = some (ts, m) → Begins b ts m)
    (h : (if c then some (ts', m') else other) = some (ts, m)) : Begins b ts m := by
  rcases of_ite_eq_some h with ⟨hc, heq⟩ | ⟨hc, h⟩
  · cases heq
    exact hpassed hc
  · exact hother hc h

theorem begins_of_begin? {b : UInt8} {ts : List Token} {m : Mode} :
    begin? b = some (ts, m) → Begins b ts m := by
  have hmark : ∀ {c t}, (c, t) ∈ marks → b = c.toUInt8 → Begins b [t] .between := by
    rintro c t h rfl
    exact .mark h
  have hname : ∀ {c cs t}, (c, cs, t) ∈ names → b = c.toUInt8 →
      Begins b [] (.name (cs.map Char.toUInt8) t) := by
    rintro c cs t h rfl
    exact .name h
  rw [begin?]
  -- one step for each test, in the order in which they are made
  refine begins_of_ite .space fun _ => ?_
  refine begins_of_ite (hmark (by decide)) fun _ => ?_
  refine begins_of_ite (hmark (by decide)) fun _ => ?_
  refine begins_of_ite (hmark (by decide)) fun _ => ?_
  refine begins_of_ite (hmark (by decide)) fun _ => ?_
  refine begins_of_ite (hmark (by decide)) fun _ => ?_
  refine begins_of_ite (hmark (by decide)) fun _ => ?_
  refine begins_of_ite (fun hb => hb ▸ .quote) fun _ => ?_
  refine begins_of_ite (fun hb => hb ▸ .minus) fun _ => ?_
  refine begins_of_ite (fun hb => hb ▸ .zero) fun hne => ?_
  refine begins_of_ite (fun hb => .digit hb hne) fun _ => ?_
  refine begins_of_ite (hname (by decide)) fun _ => ?_
  refine begins_of_ite (hname (by decide)) fun _ => ?_
  refine begins_of_ite (hname (by decide)) fun _ => ?_
  exact nofun

theorem exists_digitChar {b : UInt8} (h : isDigitByte b = true) :
    ∃ k < 10, b = (Nat.digitChar k).toUInt8 := by
  have hall : ∀ k < 10, UInt8.ofNat (48 + k) = (Nat.digitChar k).toUInt8 := by decide
  rw [isDigitByte, Bool.and_eq_true, decide_eq_true_iff, decide_eq_true_iff,
    UInt8.le_iff_toNat_le, UInt8.le_iff_toNat_le] at h
  have hlow : 48 ≤ b.toNat := h.1
  have hhigh : b.toNat ≤ 57 := h.2
  refine ⟨b.toNat - 48, by omega, ?_⟩
  rw [← hall _ (by omega), Nat.add_sub_cancel' hlow, UInt8.ofNat_toNat]

theorem begin?_of_begins {b : UInt8} {ts : List Token} {m : Mode} (h : Begins b ts m) :
    begin? b = some (ts, m) := by
  cases h with
  | space h => rw [begin?, if_pos h]
  | mark h =>
      simp only [marks, List.mem_cons, List.not_mem_nil, or_false, Prod.mk.injEq] at h
      rcases h with ⟨rfl, rfl⟩ | ⟨rfl, rfl⟩ | ⟨rfl, rfl⟩ | ⟨rfl, rfl⟩ | ⟨rfl, rfl⟩ | ⟨rfl, rfl⟩ <;> rfl
  | quote => rfl
  | minus => rfl
  | zero => rfl
  | digit h hne =>
      obtain ⟨k, hk, rfl⟩ := exists_digitChar h
      have hcases : k = 0 ∨ k = 1 ∨ k = 2 ∨ k = 3 ∨ k = 4 ∨ k = 5 ∨ k = 6 ∨ k = 7 ∨ k = 8 ∨
          k = 9 := by
        omega
      rcases hcases with rfl | rfl | rfl | rfl | rfl | rfl | rfl | rfl | rfl | rfl
      · exact absurd rfl hne
      all_goals rfl
  | name h =>
      simp only [names, List.mem_cons, List.not_mem_nil, or_false, Prod.mk.injEq] at h
      rcases h with ⟨rfl, rfl, rfl⟩ | ⟨rfl, rfl, rfl⟩ | ⟨rfl, rfl, rfl⟩ <;> rfl

/-! ### The rest of a text -/

/-- What may remain of a text within a string literal of which some pieces have been read. -/
def LiteralRemains (done : List Piece) (bs : List UInt8) (ts : List Token) : Prop :=
  ∃ body ps rest us, Literal body ps ∧ Words rest us ∧ bs = body ++ '"'.toUInt8 :: rest ∧
    ts = .string (piecesText? (done.reverse ++ ps)) :: us

/-- What may remain of a text in the middle of something, and the words that it holds. -/
def Mode.Remains : Mode → List UInt8 → List Token → Prop
  | .between, bs, ts => Words bs ts
  | .literal done, bs, ts => LiteralRemains done bs ts
  | .escape done, bs, ts => LiteralRemains done ('\\'.toUInt8 :: bs) ts
  | .unit done left value, bs, ts =>
      ∃ hex u rest, hex.length = left + 1 ∧ hexDigits? value hex = some u ∧
        LiteralRemains (.unit u :: done) rest ts ∧ bs = hex ++ rest
  | .numeral phase done, bs, ts =>
      ∃ more rest us, phase.Finishes more ∧ Words rest us ∧ bs = more ++ rest ∧
        ts = .number (done.reverse ++ more.map byteChar) :: us
  | .name more token, bs, ts => ∃ rest us, Words rest us ∧ bs = more ++ rest ∧ ts = token :: us

/-- A piece more of a string literal. -/
theorem LiteralRemains.cons {done : List Piece} {p : Piece} {bs : List UInt8} {ts : List Token}
    (h : LiteralRemains (p :: done) bs ts) (front : List UInt8)
    (hp : ∀ body ps, Literal body ps → Literal (front ++ body) (p :: ps)) :
    LiteralRemains done (front ++ bs) ts := by
  obtain ⟨body, ps, rest, us, hbody, hrest, rfl, rfl⟩ := h
  refine ⟨front ++ body, p :: ps, rest, us, hp body ps hbody, hrest, ?_, ?_⟩
  · rw [List.append_assoc]
  · rw [List.reverse_cons, List.append_assoc, List.singleton_append]

/-- What a byte between words begins is a word, with what may remain of it. -/
theorem Begins.words {b : UInt8} {ts us : List Token} {m : Mode} {bs : List UInt8}
    (h : Begins b ts m) (hm : m.Remains bs us) : Words (b :: bs) (ts ++ us) := by
  have hnumeral : ∀ {phase : Phase}, (∀ more, phase.Finishes more → IsNumeral (b :: more)) →
      (Mode.numeral phase [byteChar b]).Remains bs us → Words (b :: bs) us := by
    rintro phase hphase ⟨more, rest, us, hmore, hrest, rfl, rfl⟩
    exact .word (.number (hphase more hmore)) hrest
  cases h with
  | space hb => exact .space hb hm
  | mark hb => exact .word (.mark hb) hm
  | quote =>
      obtain ⟨body, ps, rest, us, hbody, hrest, rfl, rfl⟩ := hm
      have hword := Words.word (.string hbody) hrest
      rwa [List.cons_append, List.append_assoc] at hword
  | minus => exact hnumeral (fun more hmore => isNumeral_cons_iff.2 (.inl ⟨rfl, hmore⟩)) hm
  | zero => exact hnumeral (fun more hmore => isNumeral_cons_iff.2 (.inr (.inl ⟨rfl, hmore⟩))) hm
  | digit hb hne =>
      exact hnumeral (fun more hmore => isNumeral_cons_iff.2 (.inr (.inr ⟨⟨hb, hne⟩, hmore⟩))) hm
  | name hb =>
      obtain ⟨rest, us, hrest, rfl, rfl⟩ := hm
      exact .word (.name hb) hrest

section

variable {next : Mode} {b : UInt8} {bs : List UInt8} {ts us : List Token}

theorem LiteralRemains.of_step {done : List Piece}
    (h : (Mode.literal done).step b = some (ts, next)) (hnext : next.Remains bs us) :
    LiteralRemains done (b :: bs) (ts ++ us) := by
  rw [Mode.step] at h
  rcases of_ite_eq_some h with ⟨rfl, heq⟩ | ⟨hquote, h⟩
  · cases heq
    refine ⟨[], [], bs, us, .nil, hnext, rfl, ?_⟩
    rw [List.append_nil]
    rfl
  rcases of_ite_eq_some h with ⟨rfl, heq⟩ | ⟨hbackslash, h⟩
  · cases heq
    exact hnext
  by_cases hcontrol : b < 0x20
  · rw [if_pos hcontrol] at h
    cases h
  · rw [if_neg hcontrol] at h
    cases h
    exact LiteralRemains.cons hnext [b] fun _ _ => .plain ⟨hquote, hbackslash, hcontrol⟩

/-- A backslash, the byte behind it, and what may remain after both. -/
theorem LiteralRemains.of_step_escape {done : List Piece}
    (h : (Mode.escape done).step b = some (ts, next)) (hnext : next.Remains bs us) :
    LiteralRemains done ('\\'.toUInt8 :: b :: bs) (ts ++ us) := by
  rw [Mode.step] at h
  rcases of_ite_eq_some h with ⟨rfl, heq⟩ | ⟨-, h⟩
  · cases heq
    obtain ⟨hex, u, rest, hlength, hu, hrest, rfl⟩ := hnext
    exact LiteralRemains.cons hrest ('\\'.toUInt8 :: 'u'.toUInt8 :: hex) fun _ _ =>
      .unit hlength hu
  · obtain ⟨c, hc, heq⟩ := Option.map_eq_some_iff.1 h
    cases heq
    exact LiteralRemains.cons hnext ['\\'.toUInt8, b] fun _ _ => .letter hc

theorem Mode.remains_of_step_unit {done : List Piece} {left value : Nat}
    (h : (Mode.unit done left value).step b = some (ts, next)) (hnext : next.Remains bs us) :
    (Mode.unit done left value).Remains (b :: bs) (ts ++ us) := by
  cases hd : hexValue? (Char.ofNat b.toNat) with
  | none =>
      simp only [step, hd] at h
      cases h
  | some d =>
      have hdigit : ∀ hex, hexDigits? value (b :: hex) = hexDigits? (value * 16 + d) hex := by
        intro hex
        rw [hexDigits?, byteChar, hd, Option.bind_some]
      simp only [step, hd] at h
      cases left with
      | zero =>
          cases h
          exact ⟨[b], value * 16 + d, bs, rfl, hdigit [], hnext, rfl⟩
      | succ left =>
          cases h
          obtain ⟨hex, u, rest, hlength, hu, hrest, rfl⟩ := hnext
          exact ⟨b :: hex, u, rest, congrArg (· + 1) hlength, (hdigit hex).trans hu, hrest, rfl⟩

theorem Mode.remains_of_step_numeral {phase : Phase} {done : List Char}
    (h : (Mode.numeral phase done).step b = some (ts, next)) (hnext : next.Remains bs us) :
    (Mode.numeral phase done).Remains (b :: bs) (ts ++ us) := by
  cases hphase : phase.next? b with
  | some q =>
      simp only [step, hphase] at h
      cases h
      obtain ⟨more, rest, us, hmore, hrest, rfl, rfl⟩ := hnext
      refine ⟨b :: more, rest, us, Phase.finishes_cons_iff.2 ⟨q, hphase, hmore⟩, hrest, rfl, ?_⟩
      rw [List.reverse_cons, List.append_assoc]
      rfl
  | none =>
      simp only [step, hphase] at h
      by_cases hfinal : phase.isFinal = true
      · -- the numeral has ended, and the byte begins what stands behind it
        rw [if_pos hfinal] at h
        obtain ⟨⟨ts, m⟩, hbegin, heq⟩ := Option.map_eq_some_iff.1 h
        cases heq
        refine ⟨[], b :: bs, ts ++ us, Phase.finishes_nil_iff.2 hfinal,
          (begins_of_begin? hbegin).words hnext, rfl, ?_⟩
        rw [List.map_nil, List.append_nil]
        rfl
      · rw [if_neg hfinal] at h
        cases h

theorem Mode.remains_of_step_name {more : List UInt8} {token : Token}
    (h : (Mode.name more token).step b = some (ts, next)) (hnext : next.Remains bs us) :
    (Mode.name more token).Remains (b :: bs) (ts ++ us) := by
  cases more with
  | nil => cases h
  | cons c more =>
      by_cases hbc : b = c
      · subst hbc
        cases more with
        | nil =>
            rw [step, if_pos rfl] at h
            cases h
            exact ⟨bs, us, hnext, rfl, rfl⟩
        | cons c more =>
            simp only [step, if_true] at h
            cases h
            obtain ⟨rest, us, hrest, rfl, rfl⟩ := hnext
            exact ⟨rest, us, hrest, rfl, rfl⟩
      · cases more with
        | nil | cons =>
            simp only [step, if_neg hbc] at h
            cases h

/-- What may remain before a byte is the byte and what may remain after it. -/
theorem Mode.remains_of_step {m : Mode} (h : m.step b = some (ts, next))
    (hnext : next.Remains bs us) : m.Remains (b :: bs) (ts ++ us) := by
  cases m with
  | between => exact (begins_of_begin? h).words hnext
  | literal done => exact LiteralRemains.of_step h hnext
  | escape done => exact LiteralRemains.of_step_escape h hnext
  | unit done left value => exact remains_of_step_unit h hnext
  | numeral phase done => exact remains_of_step_numeral h hnext
  | name more token => exact remains_of_step_name h hnext

end

theorem Mode.remains_of_finish {m : Mode} {ts : List Token} (h : m.finish = some ts) :
    m.Remains [] ts := by
  cases m with
  | between =>
      cases h
      exact .nil
  | numeral phase done =>
      rw [finish] at h
      by_cases hfinal : phase.isFinal = true
      · rw [if_pos hfinal] at h
        cases h
        refine ⟨[], [], [], Phase.finishes_nil_iff.2 hfinal, .nil, rfl, ?_⟩
        rw [List.map_nil, List.append_nil]
      · rw [if_neg hfinal] at h
        cases h
  | _ => cases h

theorem remains_of_tokensFrom? {done : List Token} {m : Mode} {bs : List UInt8} {ts : List Token}
    (h : tokensFrom? done m bs = some ts) : ∃ us, m.Remains bs us ∧ ts = done.reverse ++ us := by
  induction bs generalizing done m with
  | nil =>
      obtain ⟨us, hus, rfl⟩ := Option.map_eq_some_iff.1 h
      exact ⟨us, Mode.remains_of_finish hus, rfl⟩
  | cons b bs ih =>
      rw [tokensFrom?] at h
      cases hstep : m.step b with
      | none =>
          rw [hstep] at h
          cases h
      | some p =>
          obtain ⟨ws, next⟩ := p
          rw [hstep] at h
          obtain ⟨us, hus, rfl⟩ := ih h
          refine ⟨ws ++ us, Mode.remains_of_step hstep hus, ?_⟩
          rw [List.reverse_append, List.reverse_reverse, List.append_assoc]

/-- **A text is read as words that it falls into.** -/
theorem words_of_tokens? {bs : List UInt8} {ts : List Token} (h : tokens? bs = some ts) :
    Words bs ts := by
  obtain ⟨us, hus, rfl⟩ := remains_of_tokensFrom? h
  exact hus

/-! ### Every word is read -/

/-- Hexadecimal digits are read as the code unit that they make. -/
theorem tokensFrom?_hexDigits {left value u : Nat} {hex : List UInt8}
    (hlength : hex.length = left + 1) (hu : hexDigits? value hex = some u) (done : List Token)
    (acc : List Piece) (rest : List UInt8) :
    tokensFrom? done (.unit acc left value) (hex ++ rest) =
      tokensFrom? done (.literal (.unit u :: acc)) rest := by
  induction left generalizing value hex with
  | zero =>
      obtain ⟨b, rfl⟩ := List.length_eq_one_iff.1 hlength
      obtain ⟨d, hd, heq⟩ := Option.bind_eq_some_iff.1 hu
      cases heq
      have hstep : (Mode.unit acc 0 value).step b =
          some ([], .literal (.unit (value * 16 + d) :: acc)) := by
        rw [byteChar] at hd
        simp only [Mode.step, hd]
      exact tokensFrom?_cons hstep rest
  | succ left ih =>
      obtain ⟨b, hex, rfl⟩ := List.exists_cons_of_length_eq_add_one hlength
      obtain ⟨d, hd, heq⟩ := Option.bind_eq_some_iff.1 hu
      have hstep : (Mode.unit acc (left + 1) value).step b =
          some ([], .unit acc left (value * 16 + d)) := by
        rw [byteChar] at hd
        simp only [Mode.step, hd]
      rw [List.cons_append, tokensFrom?_cons hstep]
      exact ih (Nat.succ_injective hlength) heq

/-- What stands between the quotes is read as its pieces. -/
theorem tokensFrom?_literal {body : List UInt8} {ps : List Piece} (h : Literal body ps)
    (done : List Token) (acc : List Piece) (rest : List UInt8) :
    tokensFrom? done (.literal acc) (body ++ rest) =
      tokensFrom? done (.literal (ps.reverse ++ acc)) rest := by
  have hescape : ∀ acc, (Mode.literal acc).step '\\'.toUInt8 = some ([], .escape acc) :=
    fun _ => rfl
  induction h generalizing acc with
  | nil => rfl
  | @plain b bs ps hb _ ih =>
      have hstep : (Mode.literal acc).step b = some ([], .literal (.byte b :: acc)) := by
        rw [Mode.step, if_neg hb.1, if_neg hb.2.1, if_neg hb.2.2]
      rw [List.cons_append, tokensFrom?_cons hstep, List.reverse_nil, List.nil_append, ih]
      simp
  | @letter b c bs ps hb _ ih =>
      have hu : b ≠ 'u'.toUInt8 := by
        rintro rfl
        cases hb
      have hstep : (Mode.escape acc).step b = some ([], .literal (.byte c :: acc)) := by
        rw [Mode.step, if_neg hu, hb]
        rfl
      rw [List.cons_append, tokensFrom?_cons (hescape acc), List.cons_append,
        tokensFrom?_cons hstep, List.reverse_nil, List.nil_append, List.nil_append, ih]
      simp
  | @unit hex bs u ps hlength hu _ ih =>
      have hstep : (Mode.escape acc).step 'u'.toUInt8 = some ([], .unit acc 3 0) := rfl
      rw [List.cons_append, tokensFrom?_cons (hescape acc), List.cons_append,
        tokensFrom?_cons hstep, List.append_assoc, List.reverse_nil, List.nil_append,
        List.nil_append, tokensFrom?_hexDigits hlength hu, ih]
      simp

/-- In a final phase a numeral ends where a whole number does. -/
theorem next?_eq_none_of_whole {p : Phase} (hp : p.isFinal = true) {b : UInt8}
    (h : Phase.whole.next? b = none) : p.next? b = none := by
  have hdigit : ¬ isDigitByte b = true := fun hb => by simp [Phase.next?, hb] at h
  have hmark : ¬ isExponentMark b = true := fun hb => by
    simp [Phase.next?, hb, hdigit, ne_point_of_mark hb] at h
  cases p with
  | zero => exact next?_zero_of_whole h
  | whole => exact h
  | fraction => simp [Phase.next?, hdigit, hmark]
  | exponent => simp [Phase.next?, hdigit]
  | _ => cases hp

/-- What finishes a numeral is read with it, if what follows does not go on with it. -/
theorem tokensFrom?_finishes {p : Phase} {more rest : List UInt8} (h : p.Finishes more)
    (hrest : EndsNumeral rest) (done : List Token) (acc : List Char) :
    tokensFrom? done (.numeral p acc) (more ++ rest) =
      tokensFrom? (.number (acc.reverse ++ more.map byteChar) :: done) .between rest := by
  induction more generalizing p acc with
  | nil =>
      have hfinal := Phase.finishes_nil_iff.1 h
      rw [List.nil_append, tokensFrom?_numeral hfinal
        (fun b hb => next?_eq_none_of_whole hfinal (hrest b hb)), List.map_nil, List.append_nil]
  | cons b more ih =>
      obtain ⟨q, hq, hmore⟩ := Phase.finishes_cons_iff.1 h
      have hstep : (Mode.numeral p acc).step b = some ([], .numeral q (byteChar b :: acc)) := by
        simp only [Mode.step, hq, byteChar]
      rw [List.cons_append, tokensFrom?_cons hstep, List.reverse_nil, List.nil_append, ih hmore]
      simp

/-- The word may be followed by anything, or by what does not go on with a numeral. -/
def EndsBefore (t : Token) (rest : List UInt8) : Prop :=
  ∀ numeral, t = .number numeral → EndsNumeral rest

/-- A word is read as itself. -/
theorem tokensFrom?_word {w : List UInt8} {t : Token} (h : Word w t) {rest : List UInt8}
    (hrest : EndsBefore t rest) (done : List Token) :
    tokensFrom? done .between (w ++ rest) = tokensFrom? (t :: done) .between rest := by
  cases h with
  | mark h => exact tokensFrom?_cons (m := .between) (begin?_of_begins (.mark h)) rest
  | name h =>
      simp only [names, List.mem_cons, List.not_mem_nil, or_false, Prod.mk.injEq] at h
      rcases h with ⟨rfl, rfl, rfl⟩ | ⟨rfl, rfl, rfl⟩ | ⟨rfl, rfl, rfl⟩ <;> rfl
  | number h =>
      have hends := hrest _ rfl
      cases w with
      | nil => exact absurd h not_isNumeral_nil
      | cons b bs =>
          obtain ⟨p, hbegins, hbs⟩ : ∃ p, Begins b [] (.numeral p [byteChar b]) ∧ p.Finishes bs := by
            rcases isNumeral_cons_iff.1 h with ⟨rfl, hbs⟩ | ⟨rfl, hbs⟩ | ⟨⟨hb, hne⟩, hbs⟩
            · exact ⟨_, .minus, hbs⟩
            · exact ⟨_, .zero, hbs⟩
            · exact ⟨_, .digit hb hne, hbs⟩
          rw [List.cons_append, tokensFrom?_cons (m := .between) (begin?_of_begins hbegins),
            tokensFrom?_finishes hbs hends]
          rfl
  | @string bs ps h =>
      have hopen : Mode.between.step '"'.toUInt8 = some ([], .literal []) := rfl
      have hclose : (Mode.literal ps.reverse).step '"'.toUInt8 =
          some ([.string (piecesText? ps)], .between) := by
        rw [Mode.step, if_pos rfl, List.reverse_reverse]
      rw [List.cons_append, List.append_assoc, tokensFrom?_cons hopen, tokensFrom?_literal h,
        List.append_nil, List.singleton_append, tokensFrom?_cons hclose]
      rfl

/-! ### Separated words -/

/-- The mark may follow a numeral. -/
def Token.isEnd (t : Token) : Bool :=
  t = .comma || t = .closeBracket || t = .closeBrace

/-- The word may be followed by the other: a numeral only by a mark that ends it. -/
def MayPrecede (t u : Token) : Prop :=
  (∃ numeral, t = .number numeral) → u.isEnd = true

/-- Every numeral is followed by a mark that ends it, or by nothing. -/
def Separated (ts : List Token) : Prop :=
  List.IsChain MayPrecede ts

theorem not_isEnd_string (text : Option String) : ¬ (Token.string text).isEnd = true := by
  simp [Token.isEnd]

theorem not_isEnd_number (numeral : List Char) : ¬ (Token.number numeral).isEnd = true := by
  simp [Token.isEnd]

/-- Words that begin with such a mark, or none at all, do not go on with a numeral. -/
theorem Words.endsNumeral {bs : List UInt8} {ts : List Token} (h : Words bs ts)
    (hts : ∀ t ∈ ts.head?, t.isEnd = true) : EndsNumeral bs := by
  intro b hb
  cases h with
  | nil => cases hb
  | space hspace _ =>
      obtain rfl := Option.some.inj hb
      simp only [isSpaceByte, Bool.or_eq_true, beq_iff_eq] at hspace
      rcases hspace with ((rfl | rfl) | rfl) | rfl <;> rfl
  | @word w bs t ts hw _ =>
      have hend := hts t rfl
      cases hw with
      | mark hmark =>
          obtain rfl := Option.some.inj hb
          simp only [marks, List.mem_cons, List.not_mem_nil, or_false, Prod.mk.injEq] at hmark
          rcases hmark with ⟨rfl, -⟩ | ⟨rfl, -⟩ | ⟨rfl, -⟩ | ⟨rfl, -⟩ | ⟨rfl, -⟩ | ⟨rfl, -⟩ <;> rfl
      | name hname =>
          simp only [names, List.mem_cons, List.not_mem_nil, or_false, Prod.mk.injEq] at hname
          rcases hname with ⟨-, -, rfl⟩ | ⟨-, -, rfl⟩ | ⟨-, -, rfl⟩ <;> cases hend
      | number _ => exact absurd hend (not_isEnd_number _)
      | string _ => exact absurd hend (not_isEnd_string _)

/-- **A text is read as the words that it falls into**, if each numeral is separated from what
follows. -/
theorem tokens?_of_words {bs : List UInt8} {ts : List Token} (h : Words bs ts)
    (hts : Separated ts) : tokens? bs = some ts := by
  have hfrom : ∀ done, tokensFrom? done .between bs = some (done.reverse ++ ts) := by
    induction h with
    | nil =>
        intro done
        simp [tokensFrom?, Mode.finish]
    | space hb _ ih =>
        intro done
        rw [tokensFrom?_cons (m := .between) (begin?_of_begins (.space hb))]
        exact ih hts done
    | word hw hbs ih =>
        intro done
        obtain ⟨hfirst, hrest⟩ := List.isChain_cons.1 hts
        rw [tokensFrom?_word hw fun numeral ht =>
          hbs.endsNumeral fun u hu => hfirst u hu ⟨numeral, ht⟩, ih hrest]
        simp
  exact hfrom []

end ZoneKeeper.Json
