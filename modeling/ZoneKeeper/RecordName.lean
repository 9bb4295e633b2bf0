/-
**Record names.**

Names that end in one fixed token are short for names under one fixed domain: the name `host.ls90`
means `host.ls90.co`.  A name belongs to a zone when its text ends in the zone's name.

Main definitions:

* `ZoneKeeper.RecordName.complete` — the full name of a possibly short one;
* `ZoneKeeper.RecordName.isShort` — the name is a short one;
* `ZoneKeeper.RecordName.inZone` — the name belongs to the zone.

Main results:

* `ZoneKeeper.RecordName.complete_complete` — a completed name is complete.
-/

set_option autoImplicit false

namespace ZoneKeeper.RecordName

/-- The token that a short name ends in. -/
def shortToken : List Char := ['l', 's', '9', '0']

/-- What a short name leaves out. -/
def leftOut : List Char := ['.', 'c', 'o']

/-- The name is short for a longer one. -/
def isShort (name : String) : Bool :=
  shortToken.isSuffixOf name.toList

/-- The full name. -/
def complete (name : String) : String :=
  if isShort name then name ++ String.ofList leftOut else name

/-- The text of the name ends in the zone's name. -/
def inZone (zone name : String) : Bool :=
  zone.toList.isSuffixOf name.toList

/-! ### Completion -/

/-- A completed name is not short. -/
theorem isShort_append_leftOut (name : String) :
    isShort (name ++ String.ofList leftOut) = false := by
  rw [Bool.eq_false_iff]
  intro h
  rw [isShort, List.isSuffixOf_iff_suffix, String.toList_append, String.toList_ofList] at h
  have hr := List.reverse_prefix.2 h
  rw [List.reverse_append] at hr
  simp [shortToken, leftOut, List.cons_prefix_cons] at hr

/-- Completing a completed name changes nothing. -/
theorem complete_complete (name : String) : complete (complete name) = complete name := by
  by_cases h : isShort name
  · simp [complete, h, isShort_append_leftOut]
  · simp [complete, h]

end ZoneKeeper.RecordName
