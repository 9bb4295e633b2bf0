/-
**Cutting a text at a separator.**

A text with `n` separators has `n + 1` fields, some of them possibly empty: the empty text has one
empty field, and a separator at an end adds an empty field there.  Joining the fields with the
separator gives the text back.

Main definitions:

* `ZoneKeeper.Text.fields` — the fields of a list of characters;
* `ZoneKeeper.Text.joinFields` — the fields with the separator between them.

Main results:

* `ZoneKeeper.Text.joinFields_fields` — cutting loses nothing;
* `ZoneKeeper.Text.not_mem_of_mem_fields` — no field holds the separator;
* `ZoneKeeper.Text.fields_joinFields` — fields without the separator are got back.
-/

set_option autoImplicit false

namespace ZoneKeeper.Text

/-- The fields between the separators, in order. -/
def fields (sep : Char) : List Char → List (List Char)
  | [] => [[]]
  | c :: r =>
      if c = sep then [] :: fields sep r
      else
        match fields sep r with
        | [] => [[c]]
        | f :: fs => (c :: f) :: fs

/-- The fields with the separator between each two of them. -/
def joinFields (sep : Char) : List (List Char) → List Char
  | [] => []
  | [f] => f
  | f :: fs => f ++ sep :: joinFields sep fs

theorem fields_ne_nil (sep : Char) (cs : List Char) : fields sep cs ≠ [] := by
  cases cs with
  | nil => simp [fields]
  | cons c r =>
      by_cases h : c = sep
      · simp [fields, h]
      · simp only [fields, h, if_false]
        split <;> simp

/-- Cutting at the separator and joining again gives the same characters. -/
@[simp] theorem joinFields_fields (sep : Char) (cs : List Char) :
    joinFields sep (fields sep cs) = cs := by
  induction cs with
  | nil => rfl
  | cons c r ih =>
      by_cases h : c = sep
      · subst h
        cases hf : fields c r with
        | nil => exact absurd hf (fields_ne_nil c r)
        | cons f fs => rw [hf] at ih; simp [fields, hf, joinFields, ih]
      · cases hf : fields sep r with
        | nil => exact absurd hf (fields_ne_nil sep r)
        | cons f fs =>
            rw [hf] at ih
            cases fs with
            | nil => simpa [fields, h, hf, joinFields] using ih
            | cons g gs => simpa [fields, h, hf, joinFields] using ih

/-- A field never holds the separator. -/
theorem not_mem_of_mem_fields (sep : Char) (cs f : List Char) (hf : f ∈ fields sep cs) :
    sep ∉ f := by
  induction cs generalizing f with
  | nil => simp [fields] at hf; simp [hf]
  | cons c r ih =>
      by_cases h : c = sep
      · simp only [fields, h, if_true, List.mem_cons] at hf
        rcases hf with rfl | hf
        · simp
        · exact ih f hf
      · cases hr : fields sep r with
        | nil => exact absurd hr (fields_ne_nil sep r)
        | cons g gs =>
            simp only [fields, h, if_false, hr, List.mem_cons] at hf
            rcases hf with rfl | hf
            · have := ih g (by simp [hr])
              simp [Ne.symm h, this]
            · exact ih f (by simp [hr, hf])

/-- A text without the separator is one field. -/
theorem fields_of_not_mem {sep : Char} {cs : List Char} (h : sep ∉ cs) : fields sep cs = [cs] := by
  induction cs with
  | nil => rfl
  | cons c r ih =>
      rw [List.mem_cons, not_or] at h
      simp [fields, Ne.symm h.1, ih h.2]

/-- A separator cuts the text in two. -/
theorem fields_append_cons (sep : Char) (xs ys : List Char) :
    fields sep (xs ++ sep :: ys) = fields sep xs ++ fields sep ys := by
  induction xs with
  | nil => simp [fields]
  | cons x xs ih =>
      by_cases hx : x = sep
      · simp [fields, hx, ih]
      · cases hf : fields sep xs with
        | nil => exact absurd hf (fields_ne_nil sep xs)
        | cons f fs => simp [fields, hx, ih, hf]

/-- Cutting a text that is joined from fields gives the fields. -/
theorem fields_joinFields {sep : Char} {fs : List (List Char)} (hne : fs ≠ [])
    (h : ∀ f ∈ fs, sep ∉ f) : fields sep (joinFields sep fs) = fs := by
  induction fs with
  | nil => exact absurd rfl hne
  | cons f fs ih =>
      cases fs with
      | nil => exact fields_of_not_mem (h f List.mem_cons_self)
      | cons g gs =>
          rw [joinFields, fields_append_cons, fields_of_not_mem (h f List.mem_cons_self),
            ih (by simp) fun f' hf' => h f' (List.mem_cons_of_mem f hf')]
          · rfl
          · simp

theorem joinFields_append {sep : Char} {fs gs : List (List Char)} (hf : fs ≠ []) (hg : gs ≠ []) :
    joinFields sep (fs ++ gs) = joinFields sep fs ++ sep :: joinFields sep gs := by
  induction fs with
  | nil => exact absurd rfl hf
  | cons f fs ih =>
      cases fs with
      | nil =>
          cases gs with
          | nil => exact absurd rfl hg
          | cons g gs => rfl
      | cons f' fs => simpa [joinFields] using ih (by simp)

/-- What stands in joined fields is the separator or stands in a field. -/
theorem mem_joinFields {sep c : Char} {fs : List (List Char)} (h : c ∈ joinFields sep fs) :
    c = sep ∨ ∃ f ∈ fs, c ∈ f := by
  induction fs with
  | nil => cases h
  | cons f fs ih =>
      cases fs with
      | nil => exact .inr ⟨f, List.mem_cons_self, h⟩
      | cons g gs =>
          rcases List.mem_append.1 h with h | h
          · exact .inr ⟨f, List.mem_cons_self, h⟩
          · rcases List.mem_cons.1 h with h | h
            · exact .inl h
            · rcases ih h with h | ⟨f', hf', hc⟩
              · exact .inl h
              · exact .inr ⟨f', List.mem_cons_of_mem f hf', hc⟩

end ZoneKeeper.Text
