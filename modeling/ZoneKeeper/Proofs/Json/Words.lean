/-
**Written words are read.**

A text that the writer makes falls into the words that it was made of, whatever follows it, as long
as what follows a numeral is no part of one.  A string literal may hold any character: what the
writer escapes comes back as the same character, and what it leaves alone comes back byte by byte.

Main definitions:

* `ZoneKeeper.Json.ReadsAs` — a text is read as some words, whatever follows;
* `ZoneKeeper.Json.IsMark` — a character is a word of its own that ends a numeral;
* `ZoneKeeper.Json.piecesOf` — the pieces of a string literal that a written character makes.

Main results:

* `ZoneKeeper.Json.readsAs_writeString` — **a written string is one word with its text**;
* `ZoneKeeper.Json.readsAs_writeNat` — a written number is one word with its digits;
* `ZoneKeeper.Json.ReadsAs.append_mark` — texts with a mark between them are read one by one.
-/

import ZoneKeeper.Json.Token
import ZoneKeeper.Json.Writer
import ZoneKeeper.Proofs.Text.Utf8

set_option autoImplicit false

namespace ZoneKeeper.Json

open ZoneKeeper.Text

/-! ### Texts as words -/

/-- The bytes do not go on with a numeral. -/
def EndsNumeral (rest : List UInt8) : Prop :=
  ∀ b ∈ rest.head?, Phase.whole.next? b = none

/-- The text is read as the words, whatever follows that is no part of a numeral. -/
def ReadsAs (cs : List Char) (ts : List Token) : Prop :=
  ∀ done rest, EndsNumeral rest →
    tokensFrom? done .between (Utf8.encode cs ++ rest) =
      tokensFrom? (ts.reverse ++ done) .between rest

theorem readsAs_nil : ReadsAs [] [] := fun _ _ _ => rfl

/-- The character is a word of its own, and no part of a numeral. -/
structure IsMark (c : Char) (t : Token) : Prop where
  encoded : String.utf8EncodeChar c = [c.toUInt8]
  begins : begin? c.toUInt8 = some ([t], .between)
  ends : Phase.whole.next? c.toUInt8 = none

theorem isMark_openBrace : IsMark '\x7b' .openBrace := ⟨rfl, rfl, rfl⟩
theorem isMark_closeBrace : IsMark '\x7d' .closeBrace := ⟨rfl, rfl, rfl⟩
theorem isMark_openBracket : IsMark '[' .openBracket := ⟨rfl, rfl, rfl⟩
theorem isMark_closeBracket : IsMark ']' .closeBracket := ⟨rfl, rfl, rfl⟩
theorem isMark_comma : IsMark ',' .comma := ⟨rfl, rfl, rfl⟩
theorem isMark_colon : IsMark ':' .colon := ⟨rfl, rfl, rfl⟩

theorem tokensFrom?_cons {done ts : List Token} {m next : Mode} {b : UInt8}
    (h : m.step b = some (ts, next)) (r : List UInt8) :
    tokensFrom? done m (b :: r) = tokensFrom? (ts.reverse ++ done) next r := by
  rw [tokensFrom?, h]

section

variable {cs ds : List Char} {c : Char} {t : Token} {ts us : List Token}

theorem ReadsAs.mark_cons (hc : IsMark c t) (h : ReadsAs cs ts) : ReadsAs (c :: cs) (t :: ts) := by
  intro done rest hrest
  rw [Utf8.encode_cons, hc.encoded, List.cons_append, List.nil_append, List.cons_append,
    tokensFrom?_cons (m := .between) hc.begins, h _ _ hrest]
  simp

/-- Texts with a mark between them are read one by one. -/
theorem ReadsAs.append_mark (h : ReadsAs cs ts) (hc : IsMark c t) (h' : ReadsAs ds us) :
    ReadsAs (cs ++ c :: ds) (ts ++ t :: us) := by
  intro done rest hrest
  -- the first text may end in a numeral, which the mark ends
  have hends : EndsNumeral (Utf8.encode (c :: ds) ++ rest) := by
    rw [Utf8.encode_cons, hc.encoded]
    intro b hb
    obtain rfl := Option.some.inj hb
    exact hc.ends
  rw [Utf8.encode_append, List.append_assoc, h _ _ hends, h'.mark_cons hc _ _ hrest]
  simp

end

/-! ### String literals -/

/-- The byte stands for itself in a string literal. -/
def IsPlainByte (b : UInt8) : Prop :=
  b ≠ '"'.toUInt8 ∧ b ≠ '\\'.toUInt8 ∧ ¬ b < 0x20

theorem isPlainByte_of_toNat {b : UInt8} (hquote : b.toNat ≠ 34) (hbackslash : b.toNat ≠ 92)
    (hcontrol : 0x20 ≤ b.toNat) : IsPlainByte b := by
  refine ⟨?_, ?_, ?_⟩
  · rintro rfl
    exact hquote rfl
  · rintro rfl
    exact hbackslash rfl
  · rw [UInt8.lt_iff_toNat_lt]
    exact Nat.not_lt.2 hcontrol

/-- The bytes of a character that is not escaped stand for themselves. -/
theorem isPlainByte_of_mem {c : Char} (hquote : c ≠ '"') (hbackslash : c ≠ '\\')
    (hcontrol : ¬ c.toNat < 0x20) : ∀ b ∈ String.utf8EncodeChar c, IsPlainByte b := by
  have hne : ∀ d : Char, c ≠ d → c.toNat ≠ d.toNat := fun d hd heq => hd (Char.toNat_inj.1 heq)
  rcases Utf8.utf8EncodeChar_cases c with ⟨hlt, hone⟩ | ⟨-, hmore⟩
  · intro b hb
    rw [hone] at hb
    obtain rfl := List.mem_singleton.1 hb
    have hnat := Utf8.toNat_ofNat (show c.toNat < 256 by omega)
    refine isPlainByte_of_toNat ?_ ?_ ?_
    · rw [hnat]
      exact hne _ hquote
    · rw [hnat]
      exact hne _ hbackslash
    · omega
  · intro b hb
    have := hmore b hb
    exact isPlainByte_of_toNat (by omega) (by omega) (by omega)

theorem tokensFrom?_plain {bs : List UInt8} (h : ∀ b ∈ bs, IsPlainByte b) (done : List Token)
    (acc : List Piece) (rest : List UInt8) :
    tokensFrom? done (.literal acc) (bs ++ rest) =
      tokensFrom? done (.literal ((bs.map .byte).reverse ++ acc)) rest := by
  induction bs generalizing acc with
  | nil => rfl
  | cons b bs ih =>
      obtain ⟨hquote, hbackslash, hcontrol⟩ := h b List.mem_cons_self
      have hstep : (Mode.literal acc).step b = some ([], .literal (.byte b :: acc)) := by
        rw [Mode.step, if_neg hquote, if_neg hbackslash, if_neg hcontrol]
      rw [List.cons_append, tokensFrom?_cons hstep, List.reverse_nil, List.nil_append,
        ih fun d hd => h d (List.mem_cons_of_mem b hd)]
      simp

/-- The pieces that a character makes when it is written into a string. -/
def piecesOf (c : Char) : List Piece :=
  if c.toNat < 0x20 ∧ c ∉ ['\x08', '\x0c', '\n', '\r', '\t'] then [.unit c.toNat]
  else (String.utf8EncodeChar c).map .byte

/-- A one-letter escape of a character is read as the byte of the character. -/
theorem tokensFrom?_letter {letter c : Char} (hl : String.utf8EncodeChar letter = [letter.toUInt8])
    (hc : String.utf8EncodeChar c = [c.toUInt8]) (hu : letter.toUInt8 ≠ 'u'.toUInt8)
    (he : escapedByte? letter.toUInt8 = some c.toUInt8) (done : List Token) (acc : List Piece)
    (rest : List UInt8) :
    tokensFrom? done (.literal acc) (Utf8.encode ['\\', letter] ++ rest) =
      tokensFrom? done
        (.literal (((String.utf8EncodeChar c).map Piece.byte).reverse ++ acc)) rest := by
  have hbackslash : (Mode.literal acc).step '\\'.toUInt8 = some ([], .escape acc) := rfl
  have hletter : (Mode.escape acc).step letter.toUInt8 =
      some ([], .literal (.byte c.toUInt8 :: acc)) := by
    rw [Mode.step, if_neg hu, he]
    rfl
  rw [Utf8.encode_cons, Utf8.encode_cons, hl, hc]
  change tokensFrom? done (.literal acc) ('\\'.toUInt8 :: letter.toUInt8 :: rest) = _
  rw [tokensFrom?_cons hbackslash, tokensFrom?_cons hletter]
  rfl

theorem hexValue?_digitChar {k : Nat} (hk : k < 16) :
    hexValue? (Char.ofNat (Nat.digitChar k).toUInt8.toNat) = some k := by
  have hall : ∀ k < 16, hexValue? (Char.ofNat (Nat.digitChar k).toUInt8.toNat) = some k := by
    decide
  exact hall k hk

/-- A digit of a code unit escape that is not the last one. -/
theorem step_unit {k : Nat} (hk : k < 16) (done : List Piece) (left value : Nat) :
    (Mode.unit done (left + 1) value).step (Nat.digitChar k).toUInt8 =
      some ([], .unit done left (value * 16 + k)) := by
  simp only [Mode.step, hexValue?_digitChar hk]

theorem step_last_unit {k : Nat} (hk : k < 16) (done : List Piece) (value : Nat) :
    (Mode.unit done 0 value).step (Nat.digitChar k).toUInt8 =
      some ([], .literal (.unit (value * 16 + k) :: done)) := by
  simp only [Mode.step, hexValue?_digitChar hk]

/-- The escape of a code unit below 0x100 is read as that unit. -/
theorem tokensFrom?_unit {n : Nat} (hn : n < 0x100) (done : List Token) (acc : List Piece)
    (rest : List UInt8) :
    tokensFrom? done (.literal acc) (Utf8.encode
        ['\\', 'u', '0', '0', Nat.digitChar (n / 16), Nat.digitChar (n % 16)] ++ rest) =
      tokensFrom? done (.literal (.unit n :: acc)) rest := by
  have hdigit : ∀ k < 16,
      String.utf8EncodeChar (Nat.digitChar k) = [(Nat.digitChar k).toUInt8] := by decide
  have hhigh : n / 16 < 16 := by omega
  have hlow : n % 16 < 16 := by omega
  have hopen : (Mode.literal acc).step '\\'.toUInt8 = some ([], .escape acc) := rfl
  have hunit : (Mode.escape acc).step 'u'.toUInt8 = some ([], .unit acc 3 0) := rfl
  have hvalue : ((0 * 16 + 0) * 16 + 0) * 16 + n / 16 = n / 16 := by omega
  have hsum : n / 16 * 16 + n % 16 = n := by omega
  simp only [Utf8.encode_cons, hdigit _ hhigh, hdigit _ hlow]
  change tokensFrom? done (.literal acc) ('\\'.toUInt8 :: 'u'.toUInt8 ::
    (Nat.digitChar 0).toUInt8 :: (Nat.digitChar 0).toUInt8 :: (Nat.digitChar (n / 16)).toUInt8 ::
      (Nat.digitChar (n % 16)).toUInt8 :: rest) = _
  rw [tokensFrom?_cons hopen, tokensFrom?_cons hunit,
    tokensFrom?_cons (step_unit (by omega) acc 2 0),
    tokensFrom?_cons (step_unit (by omega) acc 1 _),
    tokensFrom?_cons (step_unit hhigh acc 0 _), tokensFrom?_cons (step_last_unit hlow acc _),
    hvalue, hsum]
  rfl

/-- A character that is written into a string is read as its pieces. -/
theorem tokensFrom?_escape (c : Char) (done : List Token) (acc : List Piece) (rest : List UInt8) :
    tokensFrom? done (.literal acc) (Utf8.encode (escape c) ++ rest) =
      tokensFrom? done (.literal ((piecesOf c).reverse ++ acc)) rest := by
  by_cases hletter : c ∈ ['"', '\\', '\x08', '\x0c', '\n', '\r', '\t']
  · simp only [List.mem_cons, List.not_mem_nil, or_false] at hletter
    -- the seven characters that are escaped by a letter
    rcases hletter with rfl | rfl | rfl | rfl | rfl | rfl | rfl
    all_goals exact tokensFrom?_letter rfl rfl (by decide) rfl done acc rest
  · simp only [List.mem_cons, List.not_mem_nil, or_false, not_or] at hletter
    obtain ⟨hquote, hbackslash, hb, hf, hn, hr, ht⟩ := hletter
    rw [escape, if_neg hquote, if_neg hbackslash, if_neg hb, if_neg hf, if_neg hn, if_neg hr,
      if_neg ht, piecesOf]
    by_cases hcontrol : c.toNat < 0x20
    · rw [if_pos hcontrol, if_pos ⟨hcontrol, by simp [hb, hf, hn, hr, ht]⟩,
        tokensFrom?_unit (by omega)]
      rfl
    · rw [if_neg hcontrol, if_neg fun h => hcontrol h.1, Utf8.encode_cons]
      rw [show Utf8.encode [] = [] from rfl, List.append_nil]
      exact tokensFrom?_plain (isPlainByte_of_mem hquote hbackslash hcontrol) done acc rest

theorem tokensFrom?_escapes (s : List Char) (done : List Token) (acc : List Piece)
    (rest : List UInt8) :
    tokensFrom? done (.literal acc) (Utf8.encode (s.flatMap escape) ++ rest) =
      tokensFrom? done (.literal ((s.flatMap piecesOf).reverse ++ acc)) rest := by
  induction s generalizing acc with
  | nil => rfl
  | cons c s ih =>
      rw [List.flatMap_cons, Utf8.encode_append, List.append_assoc, tokensFrom?_escape, ih]
      simp

/-! ### The text of a string literal -/

theorem piecesBytes?_bytes (bs : List UInt8) (ps : List Piece) :
    piecesBytes? (bs.map .byte ++ ps) = (piecesBytes? ps).map (bs ++ ·) := by
  induction bs with
  | nil => simp
  | cons b bs ih =>
      rw [List.map_cons, List.cons_append, piecesBytes?, ih, Option.map_map]
      rfl

/-- A code unit that is no surrogate stands alone, whatever follows. -/
theorem piecesBytes?_unit {u : Nat} (hu : u < 0xD800) (ps : List Piece) :
    piecesBytes? (.unit u :: ps) = (piecesBytes? ps).map (Utf8.encode [Char.ofNat u] ++ ·) := by
  have hhigh : isHighSurrogate u = false := by simp [isHighSurrogate]; omega
  have hlow : isLowSurrogate u = false := by simp [isLowSurrogate]; omega
  cases ps with
  | nil => simp [piecesBytes?, hhigh, hlow]
  | cons p ps =>
      cases p with
      | byte b => simp [piecesBytes?, hhigh, hlow]
      | unit v => simp [piecesBytes?, hhigh, hlow]

theorem piecesBytes?_piecesOf (s : List Char) :
    piecesBytes? (s.flatMap piecesOf) = some (Utf8.encode s) := by
  induction s with
  | nil => rfl
  | cons c s ih =>
      rw [List.flatMap_cons, piecesOf]
      split
      · next h =>
          rw [List.singleton_append, piecesBytes?_unit (by omega), ih, Char.ofNat_toNat,
            Utf8.encode_cons c s]
          simp [Utf8.encode]
      · rw [piecesBytes?_bytes, ih, Utf8.encode_cons]
        rfl

theorem piecesText?_piecesOf (s : String) :
    piecesText? (s.toList.flatMap piecesOf) = some s := by
  rw [piecesText?, piecesBytes?_piecesOf, Option.bind_some, Utf8.decode?_encode, Option.map_some,
    String.ofList_toList]

/-- **A written string is one word with its text.** -/
theorem readsAs_writeString (s : String) : ReadsAs (writeString s) [.string (some s)] := by
  intro done rest _
  have hopen : Mode.between.step '"'.toUInt8 = some ([], .literal []) := rfl
  have hclose : (Mode.literal (s.toList.flatMap piecesOf).reverse).step '"'.toUInt8 =
      some ([.string (some s)], .between) := by
    rw [Mode.step, if_pos rfl, List.reverse_reverse, piecesText?_piecesOf]
  rw [writeString, Utf8.encode_append, Utf8.encode_cons, List.append_assoc, List.append_assoc]
  change tokensFrom? done .between ('"'.toUInt8 :: (Utf8.encode (s.toList.flatMap escape) ++
    '"'.toUInt8 :: rest)) = _
  rw [tokensFrom?_cons hopen, List.reverse_nil, List.nil_append, tokensFrom?_escapes,
    List.append_nil, tokensFrom?_cons hclose]

/-! ### Numbers and truth values -/

/-- A numeral has a digit and more; a zero in front is all of it. -/
theorem digits_shape (n : Nat) :
    ∃ d ds, d < 10 ∧ (∀ k ∈ ds, k < 10) ∧ (d = 0 → ds = []) ∧
      digits n = (d :: ds).map Nat.digitChar := by
  -- the last digit is split off, as the writer does it
  induction n using Nat.strongRecOn with
  | ind n ih =>
      rcases Nat.lt_or_ge n 10 with h | h
      · exact ⟨n, [], h, nofun, fun _ => rfl, Nat.toDigits_of_lt_base h⟩
      · obtain ⟨d, ds, hd, hds, hzero, heq⟩ := ih (n / 10) (by omega)
        have hstep : digits n = digits (n / 10) ++ [Nat.digitChar (n % 10)] :=
          Nat.toDigits_of_base_le (by omega) h
        refine ⟨d, ds ++ [n % 10], hd, ?_, fun h0 => ?_, ?_⟩
        · intro k hk
          rcases List.mem_append.1 hk with hk | hk
          · exact hds k hk
          · obtain rfl := List.mem_singleton.1 hk
            omega
        · -- the digits of `n / 10` are not those of zero
          have hone : digits (n / 10) = digits 0 := by
            rw [heq, hzero h0, h0]
            rfl
          have := eq_of_digits_eq hone
          omega
        · rw [hstep, heq, List.map_cons, List.map_cons, List.map_append]
          rfl

theorem utf8EncodeChar_digitChar {k : Nat} (hk : k < 10) :
    String.utf8EncodeChar (Nat.digitChar k) = [(Nat.digitChar k).toUInt8] := by
  have hall : ∀ k < 10, String.utf8EncodeChar (Nat.digitChar k) = [(Nat.digitChar k).toUInt8] := by
    decide
  exact hall k hk

/-- More digits go on with a whole number. -/
theorem tokensFrom?_digits {ds : List Nat} (h : ∀ k ∈ ds, k < 10) (done : List Token)
    (acc : List Char) (rest : List UInt8) :
    tokensFrom? done (.numeral .whole acc) (Utf8.encode (ds.map Nat.digitChar) ++ rest) =
      tokensFrom? done (.numeral .whole ((ds.map Nat.digitChar).reverse ++ acc)) rest := by
  induction ds generalizing acc with
  | nil => rfl
  | cons k ds ih =>
      have hk := h k List.mem_cons_self
      have hstep : (Mode.numeral .whole acc).step (Nat.digitChar k).toUInt8 =
          some ([], .numeral .whole (Nat.digitChar k :: acc)) := by
        have hdigit : ∀ k < 10, Phase.whole.next? (Nat.digitChar k).toUInt8 = some .whole ∧
            Char.ofNat (Nat.digitChar k).toUInt8.toNat = Nat.digitChar k := by decide
        simp only [Mode.step, (hdigit k hk).1, (hdigit k hk).2]
      rw [List.map_cons, Utf8.encode_cons, utf8EncodeChar_digitChar hk, List.append_assoc,
        List.singleton_append, tokensFrom?_cons hstep, List.reverse_nil, List.nil_append,
        ih fun j hj => h j (List.mem_cons_of_mem k hj)]
      simp

/-- A numeral ends where the bytes do not go on with it. -/
theorem tokensFrom?_numeral {phase : Phase} (hfinal : phase.isFinal = true) {rest : List UInt8}
    (hrest : ∀ b ∈ rest.head?, phase.next? b = none) (done : List Token) (acc : List Char) :
    tokensFrom? done (.numeral phase acc) rest =
      tokensFrom? (.number acc.reverse :: done) .between rest := by
  cases rest with
  | nil => simp [tokensFrom?, Mode.finish, hfinal]
  | cons b rest =>
      have hnext := hrest b rfl
      rw [tokensFrom?, tokensFrom?]
      simp only [Mode.step, hnext, hfinal, if_true]
      cases begin? b with
      | none => rfl
      | some p => simp

theorem next?_zero_of_whole {b : UInt8} (h : Phase.whole.next? b = none) :
    Phase.zero.next? b = none := by
  simp only [Phase.next?] at h ⊢
  split at h
  · cases h
  · exact h

/-- A written number is one word with its digits. -/
theorem readsAs_writeNat (n : Nat) : ReadsAs (writeNat n) [.number (digits n)] := by
  intro done rest hrest
  obtain ⟨d, ds, hd, hds, hzero, heq⟩ := digits_shape n
  rw [writeNat, heq, List.map_cons, Utf8.encode_cons, utf8EncodeChar_digitChar hd,
    List.append_assoc, List.singleton_append]
  -- no digit may follow a zero in front, so it is read in a phase of its own
  by_cases h0 : d = 0
  · subst h0
    have hstep : Mode.between.step (Nat.digitChar 0).toUInt8 =
        some ([], .numeral .zero ['0']) := rfl
    rw [hzero rfl, tokensFrom?_cons hstep]
    exact tokensFrom?_numeral rfl (fun b hb => next?_zero_of_whole (hrest b hb)) _ _
  · have hstep : Mode.between.step (Nat.digitChar d).toUInt8 =
        some ([], .numeral .whole [Nat.digitChar d]) := by
      have hcases : d = 1 ∨ d = 2 ∨ d = 3 ∨ d = 4 ∨ d = 5 ∨ d = 6 ∨ d = 7 ∨ d = 8 ∨ d = 9 := by
        omega
      rcases hcases with rfl | rfl | rfl | rfl | rfl | rfl | rfl | rfl | rfl <;> rfl
    rw [tokensFrom?_cons hstep, tokensFrom?_digits hds, tokensFrom?_numeral rfl hrest]
    simp

/-- A written truth value is one word. -/
theorem readsAs_writeBool (b : Bool) : ReadsAs (writeBool b) [.bool b] := by
  intro done rest _
  cases b with
  | false => rfl
  | true => rfl

end ZoneKeeper.Json
