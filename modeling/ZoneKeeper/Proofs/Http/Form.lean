/-
**Form-encoded pairs read back.**

A byte of a name or value is written as its own character, as a plus sign, or as a percent sign and
two digits.  None of these characters separates anything, so the separators in an encoded text are
those that were put between names and values; and the plus signs in it are the spaces, so that
undoing them before the escapes does no harm.  What is written for a byte is read as that byte
whatever follows, from which everything else follows by induction.

Main results:

* `ZoneKeeper.Http.Form.percentDecode_encodeByte` — a byte is read back, whatever follows it;
* `ZoneKeeper.Http.Form.decodeText_encodeText` — every text is read back;
* `ZoneKeeper.Http.Form.decode_encode` — **pairs of any texts are read back**, none is added and
  none is altered;
* `ZoneKeeper.Http.Form.encodeText_eq_self` — texts that are written as they are.
-/

import ZoneKeeper.Http.Form
import ZoneKeeper.Proofs.Text.Utf8

set_option autoImplicit false

namespace ZoneKeeper.Http

open ZoneKeeper.Text

/-! ### Escaped bytes -/

/-- Two digits stand for a byte. -/
theorem percentByte?_hexDigit (b : UInt8) :
    percentByte? (hexDigit (b.toNat / 16)) (hexDigit (b.toNat % 16)) = some b := by
  have hlt := b.toNat_lt
  rw [percentByte?, hexValue?_hexDigit _ (by omega), hexValue?_hexDigit _ (by omega)]
  dsimp only
  rw [Nat.div_add_mod', UInt8.ofNat_toNat]

/-- An escaped byte is read back, whatever follows it. -/
theorem percentDecode_percentByte (b : UInt8) (r : List Char) :
    percentDecode (percentByte b ++ r) = b :: percentDecode r := by
  rw [percentByte, List.cons_append, List.cons_append, List.cons_append, List.nil_append,
    percentDecode, percentByte?_hexDigit]

/-- A character that begins no escape is read as its bytes. -/
theorem percentDecode_cons {c : Char} (hc : c ≠ '%') (r : List Char) :
    percentDecode (c :: r) = String.utf8EncodeChar c ++ percentDecode r := by
  rw [percentDecode]
  exact fun high low r' h => absurd h hc

/-- An escape is written with the percent sign and digits. -/
theorem mem_percentByte {b : UInt8} {c : Char} (h : c ∈ percentByte b) :
    c = '%' ∨ ∃ n < 16, c = hexDigit n := by
  have hlt := b.toNat_lt
  simp only [percentByte, List.mem_cons, List.not_mem_nil, or_false] at h
  rcases h with h | h | h
  · exact .inl h
  · exact .inr ⟨_, by omega, h⟩
  · exact .inr ⟨_, by omega, h⟩

/-- An escape holds no character but the percent sign and the digits. -/
theorem not_mem_percentByte {c : Char} (hc : c ≠ '%') (hdigit : ∀ n < 16, c ≠ hexDigit n)
    (b : UInt8) : c ∉ percentByte b := by
  intro h
  rcases mem_percentByte h with h | ⟨n, hn, h⟩
  · exact hc h
  · exact hdigit n hn h

namespace Form

/-! ### Bytes -/

/-- The character of a byte that stands for itself. -/
theorem of_stands {b : UInt8} (h : stands b = true) :
    let c := Char.ofNat b.toNat
    String.utf8EncodeChar c = [b] ∧ c ≠ '%' ∧ c ≠ '+' ∧ c ≠ '&' ∧ c ≠ '=' := by
  have hall : ∀ n < 256, stands (UInt8.ofNat n) = true →
      let c := Char.ofNat (UInt8.ofNat n).toNat
      String.utf8EncodeChar c = [UInt8.ofNat n] ∧ c ≠ '%' ∧ c ≠ '+' ∧ c ≠ '&' ∧ c ≠ '=' := by
    decide +kernel
  have hb := hall b.toNat b.toNat_lt
  rw [UInt8.ofNat_toNat] at hb
  exact hb h

theorem map_plusToSpace_of_not_mem {cs : List Char} (h : '+' ∉ cs) : cs.map plusToSpace = cs := by
  refine (List.map_congr_left fun c hc => ?_).trans (List.map_id cs)
  have hne : c ≠ '+' := by
    rintro rfl
    exact h hc
  exact if_neg hne

/-- What is written for a byte is read as the byte, whatever follows. -/
theorem percentDecode_encodeByte (b : UInt8) (r : List Char) :
    percentDecode ((encodeByte b).map plusToSpace ++ r) = b :: percentDecode r := by
  by_cases hstands : stands b = true
  · obtain ⟨hbytes, hpercent, hplus, -, -⟩ := of_stands hstands
    rw [encodeByte, if_pos hstands, map_plusToSpace_of_not_mem (by simp [hplus.symm]),
      List.singleton_append, percentDecode_cons hpercent, hbytes]
    rfl
  · by_cases hspace : b = 0x20
    · subst hspace
      exact percentDecode_cons (by decide) r
    · have hplus : '+' ∉ percentByte b := not_mem_percentByte (by decide) (by decide) b
      rw [encodeByte, if_neg hstands, if_neg hspace, map_plusToSpace_of_not_mem hplus,
        percentDecode_percentByte]

/-- No separator is written for a byte. -/
theorem not_mem_encodeByte (b : UInt8) : '&' ∉ encodeByte b ∧ '=' ∉ encodeByte b := by
  by_cases hstands : stands b = true
  · obtain ⟨-, -, -, hand, hequals⟩ := of_stands hstands
    rw [encodeByte, if_pos hstands, List.mem_singleton, List.mem_singleton]
    exact ⟨hand.symm, hequals.symm⟩
  · rw [encodeByte, if_neg hstands]
    by_cases hspace : b = 0x20
    · rw [if_pos hspace]
      decide
    · rw [if_neg hspace]
      exact ⟨not_mem_percentByte (by decide) (by decide) b,
        not_mem_percentByte (by decide) (by decide) b⟩

/-! ### Names and values -/

theorem percentDecode_encodeBytes (bs : List UInt8) :
    percentDecode ((bs.flatMap encodeByte).map plusToSpace) = bs := by
  induction bs with
  | nil => rfl
  | cons b bs ih =>
      rw [List.flatMap_cons, List.map_append, percentDecode_encodeByte, ih]

/-- **Every text is read back.** -/
theorem decodeText_encodeText (s : String) : decodeText (encodeText s) = s := by
  rw [decodeText, encodeText, percentDecode_encodeBytes, Utf8.decodeLossy_encode,
    String.ofList_toList]

/-- An encoded text holds no separator. -/
theorem not_mem_encodeText (s : String) : '&' ∉ encodeText s ∧ '=' ∉ encodeText s := by
  constructor
  · intro h
    obtain ⟨b, -, hb⟩ := List.mem_flatMap.1 h
    exact (not_mem_encodeByte b).1 hb
  · intro h
    obtain ⟨b, -, hb⟩ := List.mem_flatMap.1 h
    exact (not_mem_encodeByte b).2 hb

/-- A text of characters that stand for themselves is written as it is. -/
theorem encodeText_eq_self {s : String}
    (h : ∀ c ∈ s.toList, c.toNat < 0x80 ∧ stands (UInt8.ofNat c.toNat) = true) :
    encodeText s = s.toList := by
  rw [encodeText]
  generalize s.toList = cs at h ⊢
  induction cs with
  | nil => rfl
  | cons c cs ih =>
      obtain ⟨⟨hlt, hstands⟩, hcs⟩ := List.forall_mem_cons.1 h
      rw [Utf8.encode_cons, Utf8.utf8EncodeChar_one hlt, List.singleton_append, List.flatMap_cons,
        ih hcs, encodeByte, if_pos hstands, Utf8.toNat_ofNat (Nat.lt_trans hlt (by decide)),
        Char.ofNat_toNat]
      rfl

/-! ### Pairs -/

/-- A pair is cut where its name ends. -/
theorem decodePair_encodePair (p : String × String) : decodePair (encodePair p) = p := by
  have hname : ∀ c ∈ encodeText p.1, (c != '=') = true := fun c hc =>
    bne_iff_ne.2 fun he => (not_mem_encodeText p.1).2 (he ▸ hc)
  rw [decodePair, encodePair, List.takeWhile_append_of_pos hname,
    List.dropWhile_append_of_pos hname, List.takeWhile_cons_of_neg (by simp),
    List.dropWhile_cons_of_neg (by simp), List.append_nil, List.drop_one, List.tail_cons,
    decodeText_encodeText, decodeText_encodeText]

theorem and_not_mem_encodePair (p : String × String) : '&' ∉ encodePair p := by
  simp [encodePair, (not_mem_encodeText p.1).1, (not_mem_encodeText p.2).1]

theorem encodePair_ne_nil (p : String × String) : encodePair p ≠ [] := by
  simp [encodePair]

/-- **Pairs of any texts are read back.** -/
theorem decode_encode (ps : List (String × String)) : decode (encode ps) = ps := by
  by_cases hps : ps = []
  · subst hps
    rfl
  · have hfields : fields '&' (encode ps) = ps.map encodePair := by
      refine fields_joinFields (fun hnil => hps (List.map_eq_nil_iff.1 hnil)) fun f hf => ?_
      obtain ⟨p, -, rfl⟩ := List.mem_map.1 hf
      exact and_not_mem_encodePair p
    have hkept : (ps.map encodePair).filter (· != []) = ps.map encodePair := by
      refine List.filter_eq_self.2 fun f hf => ?_
      obtain ⟨p, -, rfl⟩ := List.mem_map.1 hf
      exact bne_iff_ne.2 (encodePair_ne_nil p)
    rw [decode, hfields, hkept, List.map_map]
    exact (List.map_congr_left fun p _ => decodePair_encodePair p).trans (List.map_id ps)

end Form

end ZoneKeeper.Http
