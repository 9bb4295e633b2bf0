/-
**What is encoded is decoded.**

The decoder reads bytes that the encoder has written, character by character: the first byte of a
character tells how many are to come, and the bounds on the second one, which rule out what is no
character, hold for every character there is.

Main results:

* `ZoneKeeper.Text.Utf8.scanFrom_utf8EncodeChar` — the bytes of a character are one item;
* `ZoneKeeper.Text.Utf8.decode?_encode`, `ZoneKeeper.Text.Utf8.decodeLossy_encode` — **the bytes of
  a text are that text**, read strictly or leniently;
* `ZoneKeeper.Text.Utf8.utf8EncodeChar_cases` — a character is one byte below 0x80, or all its bytes
  are at least 0x80.
-/

import ZoneKeeper.Text.Utf8

set_option autoImplicit false

namespace ZoneKeeper.Text.Utf8

/-! ### The bytes of a character -/

/-- A character is below the surrogates or above them. -/
theorem toNat_range (c : Char) :
    c.toNat < 0xD800 ∨ 0xDFFF < c.toNat ∧ c.toNat < 0x110000 := c.valid

section

variable {c : Char}

theorem utf8EncodeChar_one (h : c.toNat < 0x80) :
    String.utf8EncodeChar c = [UInt8.ofNat c.toNat] := by
  have hv : c.val.toNat ≤ 127 := Nat.le_of_lt_succ h
  rw [String.utf8EncodeChar, if_pos hv]
  rfl

theorem utf8EncodeChar_two (h : 0x80 ≤ c.toNat) (h' : c.toNat < 0x800) :
    String.utf8EncodeChar c =
      [UInt8.ofNat (c.toNat / 64 + 0xC0), UInt8.ofNat (c.toNat % 64 + 0x80)] := by
  rw [Char.toNat] at *
  rw [String.utf8EncodeChar, if_neg (by omega), if_pos (by omega),
    Nat.mod_eq_of_lt (by omega : c.val.toNat / 64 < 32)]

theorem utf8EncodeChar_three (h : 0x800 ≤ c.toNat) (h' : c.toNat < 0x10000) :
    String.utf8EncodeChar c =
      [UInt8.ofNat (c.toNat / 4096 + 0xE0), UInt8.ofNat (c.toNat / 64 % 64 + 0x80),
        UInt8.ofNat (c.toNat % 64 + 0x80)] := by
  rw [Char.toNat] at *
  rw [String.utf8EncodeChar, if_neg (by omega), if_neg (by omega), if_pos (by omega),
    Nat.mod_eq_of_lt (by omega : c.val.toNat / 4096 < 16)]

theorem utf8EncodeChar_four (h : 0x10000 ≤ c.toNat) :
    String.utf8EncodeChar c =
      [UInt8.ofNat (c.toNat / 262144 + 0xF0), UInt8.ofNat (c.toNat / 4096 % 64 + 0x80),
        UInt8.ofNat (c.toNat / 64 % 64 + 0x80), UInt8.ofNat (c.toNat % 64 + 0x80)] := by
  have hrange := toNat_range c
  rw [Char.toNat] at *
  rw [String.utf8EncodeChar, if_neg (by omega), if_neg (by omega), if_neg (by omega),
    Nat.mod_eq_of_lt (by omega : c.val.toNat / 262144 < 8)]

end

/-! ### Reading a character -/

theorem toNat_ofNat {n : Nat} (h : n < 256) : (UInt8.ofNat n).toNat = n :=
  UInt8.toNat_ofNat_of_lt' h

theorem start_two {n : Nat} (h : 2 ≤ n) (h' : n < 32) :
    start (UInt8.ofNat (n + 0xC0)) = .inr ⟨1, 0x80, 0xBF, n⟩ := by
  rw [start, toNat_ofNat (by omega), if_neg (by omega), if_neg (by omega), if_pos (by omega),
    Nat.add_sub_cancel]

/-- The second byte has a greater least value after 0xE0 and a smaller greatest one after 0xED. -/
theorem start_three {n : Nat} (h : n < 16) :
    start (UInt8.ofNat (n + 0xE0)) =
      .inr ⟨2, if n = 0 then 0xA0 else 0x80, if n = 13 then 0x9F else 0xBF, n⟩ := by
  rw [start, toNat_ofNat (by omega), if_neg (by omega), if_neg (by omega), if_neg (by omega)]
  by_cases h0 : n = 0
  · subst h0
    rfl
  · by_cases h13 : n = 13
    · subst h13
      rfl
    · rw [if_neg (by omega), if_neg (by omega), if_pos (by omega), if_neg h0, if_neg h13,
        Nat.add_sub_cancel]

/-- The second byte has a greater least value after 0xF0 and a smaller greatest one after 0xF4. -/
theorem start_four {n : Nat} (h : n < 5) :
    start (UInt8.ofNat (n + 0xF0)) =
      .inr ⟨3, if n = 0 then 0x90 else 0x80, if n = 4 then 0x8F else 0xBF, n⟩ := by
  rw [start, toNat_ofNat (by omega), if_neg (by omega), if_neg (by omega), if_neg (by omega),
    if_neg (by omega), if_neg (by omega), if_neg (by omega)]
  by_cases h0 : n = 0
  · subst h0
    rfl
  · by_cases h4 : n = 4
    · subst h4
      rfl
    · rw [if_neg (by omega), if_pos (by omega), if_neg h0, if_neg h4, Nat.add_sub_cancel]

/-- The first byte of a character of more bytes opens it. -/
theorem scanFrom_first {b : UInt8} {p : Partial} (h : start b = .inr p) (r : List UInt8) :
    scanFrom none (b :: r) = scanFrom (some p) r := by
  rw [scanFrom, h]

/-- A byte between the first and the last one brings the character forward. -/
theorem scanFrom_more {left bits n : Nat} {low high : UInt8} (hn : n < 64)
    (hlow : low.toNat ≤ n + 0x80) (hhigh : n + 0x80 ≤ high.toNat) (r : List UInt8) :
    scanFrom (some ⟨left + 2, low, high, bits⟩) (UInt8.ofNat (n + 0x80) :: r) =
      scanFrom (some ⟨left + 1, 0x80, 0xBF, bits * 64 + n⟩) r := by
  have hb := toNat_ofNat (show n + 0x80 < 256 by omega)
  generalize UInt8.ofNat (n + 0x80) = b at hb ⊢
  have hin : low ≤ b ∧ b ≤ high := by
    rw [UInt8.le_iff_toNat_le, UInt8.le_iff_toNat_le, hb]
    exact ⟨hlow, hhigh⟩
  have hbits : (Partial.mk (left + 2) low high bits).extend b = bits * 64 + n := by
    change bits * 0x40 + (b.toNat - 0x80) = _
    omega
  rw [scanFrom, if_pos hin, if_neg (by simp), hbits]
  rfl

/-- The last byte of a character ends it. -/
theorem scanFrom_last {bits n : Nat} (hn : n < 64) (r : List UInt8) :
    scanFrom (some ⟨1, 0x80, 0xBF, bits⟩) (UInt8.ofNat (n + 0x80) :: r) =
      some (Char.ofNat (bits * 64 + n)) :: scanFrom none r := by
  have hb := toNat_ofNat (show n + 0x80 < 256 by omega)
  generalize UInt8.ofNat (n + 0x80) = b at hb ⊢
  have hin : (0x80 : UInt8) ≤ b ∧ b ≤ (0xBF : UInt8) := by
    rw [UInt8.le_iff_toNat_le, UInt8.le_iff_toNat_le, hb]
    exact ⟨Nat.le_add_left _ _, Nat.add_le_add_right (Nat.le_of_lt_succ hn) 0x80⟩
  have hbits : (Partial.mk 1 0x80 0xBF bits).extend b = bits * 64 + n := by
    change bits * 0x40 + (b.toNat - 0x80) = _
    omega
  rw [scanFrom, if_pos hin, if_pos (Nat.le_refl 1), hbits]

/-- The bytes of a character are one item. -/
theorem scanFrom_utf8EncodeChar (c : Char) (r : List UInt8) :
    scanFrom none (String.utf8EncodeChar c ++ r) = some c :: scanFrom none r := by
  have hrange := toNat_range c
  have hofNat : ∀ n, n = c.toNat → Char.ofNat n = c := fun n hn => hn ▸ Char.ofNat_toNat c
  rcases Nat.lt_or_ge c.toNat 0x80 with h1 | h1
  · have hstart : start (UInt8.ofNat c.toNat) = .inl (some c) := by
      rw [start, toNat_ofNat (by omega), if_pos h1, Char.ofNat_toNat]
    rw [utf8EncodeChar_one h1, List.singleton_append, scanFrom, hstart]
  · rcases Nat.lt_or_ge c.toNat 0x800 with h2 | h2
    · rw [utf8EncodeChar_two h1 h2, List.cons_append, List.singleton_append,
        scanFrom_first (start_two (by omega) (by omega)), scanFrom_last (by omega),
        hofNat _ (by omega)]
    · rcases Nat.lt_or_ge c.toNat 0x10000 with h3 | h3
      · have hlow : (if c.toNat / 4096 = 0 then 0xA0 else 0x80 : UInt8).toNat ≤
            c.toNat / 64 % 64 + 0x80 := by
          rw [apply_ite UInt8.toNat]
          change (if c.toNat / 4096 = 0 then 0xA0 else 0x80) ≤ c.toNat / 64 % 64 + 0x80
          split <;> omega
        -- the surrogates are what a greater second byte would make
        have hhigh : c.toNat / 64 % 64 + 0x80 ≤
            (if c.toNat / 4096 = 13 then 0x9F else 0xBF : UInt8).toNat := by
          rw [apply_ite UInt8.toNat]
          change c.toNat / 64 % 64 + 0x80 ≤ if c.toNat / 4096 = 13 then 0x9F else 0xBF
          split <;> omega
        rw [utf8EncodeChar_three h2 h3, List.cons_append, List.cons_append, List.singleton_append,
          scanFrom_first (start_three (by omega)), scanFrom_more (by omega) hlow hhigh,
          scanFrom_last (by omega), hofNat _ (by omega)]
      · have hlow : (if c.toNat / 262144 = 0 then 0x90 else 0x80 : UInt8).toNat ≤
            c.toNat / 4096 % 64 + 0x80 := by
          rw [apply_ite UInt8.toNat]
          change (if c.toNat / 262144 = 0 then 0x90 else 0x80) ≤ c.toNat / 4096 % 64 + 0x80
          split <;> omega
        -- there is no character above U+10FFFF
        have hhigh : c.toNat / 4096 % 64 + 0x80 ≤
            (if c.toNat / 262144 = 4 then 0x8F else 0xBF : UInt8).toNat := by
          rw [apply_ite UInt8.toNat]
          change c.toNat / 4096 % 64 + 0x80 ≤ if c.toNat / 262144 = 4 then 0x8F else 0xBF
          split <;> omega
        have hmid : c.toNat / 64 % 64 + 0x80 ≤ (0xBF : UInt8).toNat := by
          change c.toNat / 64 % 64 + 0x80 ≤ 0xBF
          omega
        rw [utf8EncodeChar_four h3, List.cons_append, List.cons_append, List.cons_append,
          List.singleton_append, scanFrom_first (start_four (by omega)),
          scanFrom_more (by omega) hlow hhigh,
          scanFrom_more (by omega) (Nat.le_add_left _ _) hmid, scanFrom_last (by omega),
          hofNat _ (by omega)]

/-! ### Reading a text -/

theorem scan_encode (cs : List Char) : scan (encode cs) = cs.map some := by
  rw [scan]
  induction cs with
  | nil => rfl
  | cons c cs ih =>
      rw [encode, List.flatMap_cons, scanFrom_utf8EncodeChar, List.map_cons]
      exact congrArg (some c :: ·) ih

/-- **The bytes of a text are that text.** -/
theorem decode?_encode (cs : List Char) : decode? (encode cs) = some cs := by
  rw [decode?, scan_encode]
  induction cs with
  | nil => rfl
  | cons c cs ih =>
      rw [List.map_cons, List.mapM_cons, ih]
      rfl

/-- The same, read leniently. -/
theorem decodeLossy_encode (cs : List Char) : decodeLossy (encode cs) = cs := by
  rw [decodeLossy, scan_encode, List.map_map]
  exact List.map_id cs

theorem encode_append (xs ys : List Char) : encode (xs ++ ys) = encode xs ++ encode ys :=
  List.flatMap_append

theorem encode_cons (c : Char) (cs : List Char) :
    encode (c :: cs) = String.utf8EncodeChar c ++ encode cs :=
  List.flatMap_cons

/-- A character is one byte below 0x80, or all its bytes are at least 0x80. -/
theorem utf8EncodeChar_cases (c : Char) :
    c.toNat < 0x80 ∧ String.utf8EncodeChar c = [UInt8.ofNat c.toNat] ∨
      0x80 ≤ c.toNat ∧ ∀ b ∈ String.utf8EncodeChar c, 0x80 ≤ b.toNat := by
  have hrange := toNat_range c
  rcases Nat.lt_or_ge c.toNat 0x80 with h1 | h1
  · exact .inl ⟨h1, utf8EncodeChar_one h1⟩
  · refine .inr ⟨h1, ?_⟩
    have hbyte : ∀ n, 0x80 ≤ n → n < 256 → 0x80 ≤ (UInt8.ofNat n).toNat :=
      fun n hn hn' => (toNat_ofNat hn').symm ▸ hn
    rcases Nat.lt_or_ge c.toNat 0x800 with h2 | h2
    · rw [utf8EncodeChar_two h1 h2]
      simp only [List.forall_mem_cons]
      exact ⟨hbyte _ (by omega) (by omega), hbyte _ (by omega) (by omega), nofun⟩
    · rcases Nat.lt_or_ge c.toNat 0x10000 with h3 | h3
      · rw [utf8EncodeChar_three h2 h3]
        simp only [List.forall_mem_cons]
        exact ⟨hbyte _ (by omega) (by omega), hbyte _ (by omega) (by omega),
          hbyte _ (by omega) (by omega), nofun⟩
      · rw [utf8EncodeChar_four h3]
        simp only [List.forall_mem_cons]
        exact ⟨hbyte _ (by omega) (by omega), hbyte _ (by omega) (by omega),
          hbyte _ (by omega) (by omega), hbyte _ (by omega) (by omega), nofun⟩

end ZoneKeeper.Text.Utf8
