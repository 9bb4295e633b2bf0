/-
**Blank characters and trimming.**

A character is blank when it has the property White_Space.  The table below is that property in
full, so the tab, the line and paragraph separators, the no-break space and the ideographic space
are blank and the zero-width space is not.  Trimming removes blanks at both ends of a text and
nothing in between.

Main definitions:

* `ZoneKeeper.Text.isBlank` — the property, as ranges of code points;
* `ZoneKeeper.Text.trim` — a text without the blanks at its ends;
* `ZoneKeeper.Text.allBlank` — a text that trimming leaves nothing of.

Main results:

* `ZoneKeeper.Text.allBlank_iff_trim_eq_nil` — a text is all blank exactly when trimming empties it.
-/

set_option autoImplicit false

namespace ZoneKeeper.Text

/-- The characters with the property White_Space. -/
def isBlank (c : Char) : Bool :=
  let n := c.toNat
  (9 ≤ n && n ≤ 13) || n == 0x20 || n == 0x85 || n == 0xA0 || n == 0x1680 ||
    (0x2000 ≤ n && n ≤ 0x200A) || n == 0x2028 || n == 0x2029 || n == 0x202F || n == 0x205F ||
    n == 0x3000

/-- The characters without the blanks at the front. -/
def trimFront (cs : List Char) : List Char :=
  cs.dropWhile isBlank

/-- The characters without the blanks at either end. -/
def trimChars (cs : List Char) : List Char :=
  (trimFront (trimFront cs).reverse).reverse

/-- The text without the blanks at either end. -/
def trim (s : String) : String :=
  String.ofList (trimChars s.toList)

/-- Every character of the text is blank; the empty text is. -/
def allBlank (s : String) : Bool :=
  s.toList.all isBlank

/-! ### What trimming does -/

/-- A blank at the front is dropped. -/
theorem trimFront_cons_of_isBlank (c : Char) (r : List Char) (h : isBlank c = true) :
    trimFront (c :: r) = trimFront r := by
  rw [trimFront, List.dropWhile_cons_of_pos h, trimFront]

/-- Nothing is dropped in front of another character. -/
theorem trimFront_cons_of_not_isBlank (c : Char) (r : List Char) (h : ¬ isBlank c = true) :
    trimFront (c :: r) = c :: r := by
  rw [trimFront, List.dropWhile_cons_of_neg h]

theorem trimFront_eq_nil_iff (cs : List Char) :
    trimFront cs = [] ↔ cs.all isBlank = true := by
  induction cs with
  | nil => exact ⟨fun _ => rfl, fun _ => rfl⟩
  | cons c r ih =>
      by_cases hc : isBlank c = true
      · rw [trimFront_cons_of_isBlank c r hc, List.all_cons, hc, Bool.true_and]
        exact ih
      · rw [trimFront_cons_of_not_isBlank c r hc, List.all_cons]
        simp [hc]

theorem trimFront_head_not_blank (cs : List Char) :
    ∀ c ∈ (trimFront cs).head?, isBlank c = false := by
  induction cs with
  | nil => intro c hc; exact absurd hc (by simp [trimFront])
  | cons c r ih =>
      by_cases hc : isBlank c = true
      · rw [trimFront_cons_of_isBlank c r hc]
        exact ih
      · rw [trimFront_cons_of_not_isBlank c r hc]
        intro d hd
        obtain rfl : c = d := by simpa using hd
        exact Bool.eq_false_iff.2 hc

/-- A text is all blank exactly when trimming leaves nothing of it. -/
theorem allBlank_iff_trim_eq_nil (cs : List Char) :
    cs.all isBlank = true ↔ trimChars cs = [] := by
  rw [trimChars, List.reverse_eq_nil_iff, trimFront_eq_nil_iff, List.all_reverse]
  constructor
  · intro h
    rw [(trimFront_eq_nil_iff cs).2 h]
    rfl
  · intro h
    rw [← trimFront_eq_nil_iff]
    cases hd : trimFront cs with
    | nil => rfl
    | cons c r =>
        have hc := trimFront_head_not_blank cs c (by simp [hd])
        rw [hd] at h
        simp [hc] at h

end ZoneKeeper.Text
