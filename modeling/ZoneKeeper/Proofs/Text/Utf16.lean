/-
**What is written behind a mark is read.**

The two halves of a pair are code units that no character has, so the reader is never in doubt which
code units belong together: each character is read from its own, whatever follows.  The mark is not
part of the text it introduces.

Main definitions:

* `ZoneKeeper.Text.Utf16.unitsOf` — the code units of a character;
* `ZoneKeeper.Text.Utf16.encode` — the bytes of a text;
* `ZoneKeeper.Text.Encoding`, `ZoneKeeper.Text.Encoding.encode` — the ways to write a text, and its
  bytes with the mark in front.

Main results:

* `ZoneKeeper.Text.Utf16.scanFrom_unitsOf` — the code units of a character are one item;
* `ZoneKeeper.Text.Utf16.decodeLossy_encode` — the bytes of a text are that text;
* `ZoneKeeper.Text.decodeMarked_encode` — **a marked text is read in whichever way it is written**.
-/

import ZoneKeeper.Proofs.Text.Utf8
import ZoneKeeper.Text.Utf16

set_option autoImplicit false

namespace ZoneKeeper.Text

namespace Utf16

/-! ### Writing -/

/-- The code units of a character: the character itself, or a pair. -/
def unitsOf (c : Char) : List Nat :=
  if c.toNat < 0x10000 then [c.toNat]
  else [0xD800 + (c.toNat - 0x10000) / 0x400, 0xDC00 + (c.toNat - 0x10000) % 0x400]

/-- The bytes of a code unit. -/
def bytesOf (order : ByteOrder) (u : Nat) : List UInt8 :=
  match order with
  | .little => [UInt8.ofNat (u % 0x100), UInt8.ofNat (u / 0x100)]
  | .big => [UInt8.ofNat (u / 0x100), UInt8.ofNat (u % 0x100)]

/-- The bytes of a text. -/
def encode (order : ByteOrder) (cs : List Char) : List UInt8 :=
  (cs.flatMap unitsOf).flatMap (bytesOf order)

/-! ### Reading -/

theorem unitsOf_lt {c : Char} {u : Nat} (hu : u ∈ unitsOf c) : u < 0x10000 := by
  have hrange := Utf8.toNat_range c
  rw [unitsOf] at hu
  split at hu
  · rw [List.mem_singleton] at hu
    omega
  · simp only [List.mem_cons, List.not_mem_nil, or_false] at hu
    omega

/-- The bytes of a code unit make it up. -/
theorem units_bytesOf (order : ByteOrder) {u : Nat} (hu : u < 0x10000) (r : List UInt8) :
    units order (bytesOf order u ++ r) = some u :: units order r := by
  have hlow := Utf8.toNat_ofNat (show u % 0x100 < 256 by omega)
  have hhigh := Utf8.toNat_ofNat (show u / 0x100 < 256 by omega)
  have hsum : u / 0x100 * 0x100 + u % 0x100 = u := by omega
  cases order with
  | little =>
      rw [bytesOf, List.cons_append, List.singleton_append, units, unit, hlow, hhigh, hsum]
  | big =>
      rw [bytesOf, List.cons_append, List.singleton_append, units, unit, hlow, hhigh, hsum]

theorem units_flatMap (order : ByteOrder) {us : List Nat} (hus : ∀ u ∈ us, u < 0x10000) :
    units order (us.flatMap (bytesOf order)) = us.map some := by
  induction us with
  | nil => rfl
  | cons u us ih =>
      obtain ⟨hu, hrest⟩ := List.forall_mem_cons.1 hus
      rw [List.flatMap_cons, units_bytesOf order hu, ih hrest, List.map_cons]

/-- The code units of a character are one item. -/
theorem scanFrom_unitsOf (c : Char) (r : List (Option Nat)) :
    scanFrom none ((unitsOf c).map some ++ r) = some c :: scanFrom none r := by
  have hrange := Utf8.toNat_range c
  rw [unitsOf]
  by_cases hone : c.toNat < 0x10000
  · have hlead : isLead c.toNat = false := by
      simp only [isLead, Bool.and_eq_false_iff, decide_eq_false_iff_not]
      omega
    have htrail : isTrail c.toNat = false := by
      simp only [isTrail, Bool.and_eq_false_iff, decide_eq_false_iff_not]
      omega
    rw [if_pos hone, List.map_singleton, List.singleton_append, scanFrom, hlead,
      if_neg Bool.false_ne_true, single, htrail, if_neg Bool.false_ne_true, Char.ofNat_toNat]
  · have hlead : isLead (0xD800 + (c.toNat - 0x10000) / 0x400) = true := by
      simp only [isLead, Bool.and_eq_true, decide_eq_true_eq]
      omega
    have htrail : isTrail (0xDC00 + (c.toNat - 0x10000) % 0x400) = true := by
      simp only [isTrail, Bool.and_eq_true, decide_eq_true_eq]
      omega
    have hpair : pair (0xD800 + (c.toNat - 0x10000) / 0x400)
        (0xDC00 + (c.toNat - 0x10000) % 0x400) = c := by
      rw [pair, show 0x10000 + (0xD800 + (c.toNat - 0x10000) / 0x400 - 0xD800) * 0x400 +
        (0xDC00 + (c.toNat - 0x10000) % 0x400 - 0xDC00) = c.toNat by omega, Char.ofNat_toNat]
    rw [if_neg hone, List.map_cons, List.map_singleton, List.cons_append, List.singleton_append,
      scanFrom, if_pos hlead, scanFrom, if_pos htrail, hpair]

theorem scanFrom_flatMap_unitsOf (cs : List Char) :
    scanFrom none ((cs.flatMap unitsOf).map some) = cs.map some := by
  induction cs with
  | nil => rfl
  | cons c cs ih => rw [List.flatMap_cons, List.map_append, scanFrom_unitsOf, ih, List.map_cons]

/-- The bytes of a text are that text. -/
theorem decodeLossy_encode (order : ByteOrder) (cs : List Char) :
    decodeLossy order (encode order cs) = cs := by
  have hlt : ∀ u ∈ cs.flatMap unitsOf, u < 0x10000 := by
    intro u hu
    obtain ⟨c, -, hc⟩ := List.mem_flatMap.1 hu
    exact unitsOf_lt hc
  rw [decodeLossy, encode, units_flatMap order hlt, scanFrom_flatMap_unitsOf, List.map_map]
  exact List.map_id cs

end Utf16

/-! ### Marks -/

/-- The ways to write a text behind a mark. -/
inductive Encoding
  | utf8
  | utf16 (order : ByteOrder)

/-- The bytes of a text, with the mark in front. -/
def Encoding.encode : Encoding → List Char → List UInt8
  | .utf8, cs => [0xEF, 0xBB, 0xBF] ++ Utf8.encode cs
  | .utf16 .little, cs => [0xFF, 0xFE] ++ Utf16.encode .little cs
  | .utf16 .big, cs => [0xFE, 0xFF] ++ Utf16.encode .big cs

/-- **A marked text is read in whichever way it is written.** -/
theorem decodeMarked_encode (encoding : Encoding) (cs : List Char) :
    decodeMarked (encoding.encode cs) = cs := by
  cases encoding with
  | utf8 => exact Utf8.decodeLossy_encode cs
  | utf16 order =>
      cases order with
      | little => exact Utf16.decodeLossy_encode .little cs
      | big => exact Utf16.decodeLossy_encode .big cs

/-- Halves without their other halves, and a byte that is left over. -/
example : decodeMarked [0xFF, 0xFE, 0x00, 0xDC, 0x41, 0x00, 0x00, 0xD8, 0x42] =
    ['\uFFFD', 'A', '\uFFFD'] := by decide

end ZoneKeeper.Text
