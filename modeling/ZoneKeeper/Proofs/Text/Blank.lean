/-
**Blanks around a text.**

Trimming looks at the ends of a text only, so blanks that are put around a text are trimmed away
again, and a text that holds no blank has none around it.

Main definitions:

* `ZoneKeeper.Text.PaddedTo` — one text is the other with blanks around it.

Main results:

* `ZoneKeeper.Text.PaddedTo.trim_eq` — **texts that differ in the blanks around them are trimmed to
  one text**;
* `ZoneKeeper.Text.PaddedTo.eq_of_forall` — a text without blanks is padded by nothing;
* `ZoneKeeper.Text.trim_eq_empty_iff` — what is trimmed to nothing is all blank;
* `ZoneKeeper.Text.allBlank_trim` — a trimmed text is blank exactly if the text is.
-/

import ZoneKeeper.Text.Blank

set_option autoImplicit false

namespace ZoneKeeper.Text

/-! ### What trimming leaves -/

/-- Trimming leaves nothing that begins with a blank. -/
theorem trimFront_eq_nil_of_all {cs : List Char} (h : (trimFront cs).all isBlank = true) :
    trimFront cs = [] := by
  have hhead := trimFront_head_not_blank cs
  cases hd : trimFront cs with
  | nil => rfl
  | cons c r =>
      rw [hd] at h hhead
      have hc := hhead c rfl
      rw [List.all_cons, hc, Bool.false_and] at h
      cases h

/-- A trimmed text is blank exactly if the text is. -/
theorem allBlank_trim (s : String) : allBlank (trim s) = allBlank s := by
  rw [Bool.eq_iff_iff, allBlank, allBlank, trim, String.toList_ofList,
    allBlank_iff_trim_eq_nil s.toList]
  constructor
  · intro h
    rw [trimChars, List.all_reverse] at h
    exact congrArg List.reverse (trimFront_eq_nil_of_all h)
  · intro h
    rw [h]
    rfl

/-- What is trimmed to nothing is all blank. -/
theorem trim_eq_empty_iff (s : String) : trim s = "" ↔ allBlank s = true := by
  rw [allBlank, allBlank_iff_trim_eq_nil, trim, ← String.toList_inj, String.toList_ofList,
    String.toList_empty]

/-! ### Blanks that are put around a text -/

/-- The second text is the first one with blanks around it. -/
def PaddedTo (s t : String) : Prop :=
  ∃ front back : List Char, (∀ c ∈ front, isBlank c = true) ∧ (∀ c ∈ back, isBlank c = true) ∧
    t.toList = front ++ s.toList ++ back

theorem trimFront_append_of_forall {front : List Char} (h : ∀ c ∈ front, isBlank c = true)
    (cs : List Char) : trimFront (front ++ cs) = trimFront cs :=
  List.dropWhile_append_of_pos h

/-- What begins with another character than a blank keeps what follows. -/
theorem trimFront_append_of_ne_nil {cs : List Char} (h : trimFront cs ≠ []) (ds : List Char) :
    trimFront (cs ++ ds) = trimFront cs ++ ds := by
  rw [trimFront, List.dropWhile_append, if_neg (by simpa [trimFront] using h), trimFront]

/-- Blanks around the characters are trimmed away. -/
theorem trimChars_padded {front back : List Char} (hfront : ∀ c ∈ front, isBlank c = true)
    (hback : ∀ c ∈ back, isBlank c = true) (cs : List Char) :
    trimChars (front ++ cs ++ back) = trimChars cs := by
  rw [trimChars, trimChars, List.append_assoc, trimFront_append_of_forall hfront]
  by_cases hnil : trimFront cs = []
  · -- there is nothing but blanks
    have hback' : trimFront back = [] := (trimFront_eq_nil_iff back).2 (List.all_eq_true.2 hback)
    have hcs : ∀ c ∈ cs, isBlank c = true := List.all_eq_true.1 ((trimFront_eq_nil_iff cs).1 hnil)
    rw [trimFront_append_of_forall hcs, hback', hnil]
  · have hreverse : ∀ c ∈ back.reverse, isBlank c = true := by
      intro c hc
      exact hback c (List.mem_reverse.1 hc)
    rw [trimFront_append_of_ne_nil hnil, List.reverse_append, trimFront_append_of_forall hreverse]

namespace PaddedTo

theorem refl (s : String) : PaddedTo s s :=
  ⟨[], [], List.forall_mem_nil _, List.forall_mem_nil _, by rw [List.nil_append, List.append_nil]⟩

variable {s t : String} (h : PaddedTo s t)

include h

/-- **Texts that differ in the blanks around them are trimmed to one text.** -/
theorem trim_eq : trim t = trim s := by
  obtain ⟨front, back, hfront, hback, ht⟩ := h
  rw [trim, trim, ht, trimChars_padded hfront hback]

/-- A text without blanks is padded by nothing. -/
theorem eq_of_forall (hno : ∀ c ∈ t.toList, isBlank c = false) : t = s := by
  obtain ⟨front, back, hfront, hback, ht⟩ := h
  have hnil : ∀ blanks : List Char, (∀ c ∈ blanks, isBlank c = true) →
      (∀ c ∈ blanks, c ∈ t.toList) → blanks = [] := by
    intro blanks hblank hmem
    refine List.eq_nil_iff_forall_not_mem.2 fun c hc => ?_
    cases (hblank c hc).symm.trans (hno c (hmem c hc))
  have hfrontNil := hnil front hfront fun c hc => by simp [ht, hc]
  have hbackNil := hnil back hback fun c hc => by simp [ht, hc]
  rw [hfrontNil, hbackNil, List.nil_append, List.append_nil] at ht
  exact String.toList_injective ht

end PaddedTo

end ZoneKeeper.Text
