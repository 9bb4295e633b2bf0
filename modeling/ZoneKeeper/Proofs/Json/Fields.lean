/-
**Which values a record's fields are read from.**

A field of an object is looked up by its name, so that its place among the members and all members
of other names do not count.  All that does is which values are given for the name, and that the
object has no key without a text.

Main definitions:

* `ZoneKeeper.Json.given` — the values that members give for a key;
* `ZoneKeeper.Json.HasTextKeys` — every key is a text.

Main results:

* `ZoneKeeper.Json.fieldValues?_object_eq_some_iff` — **the fields of an object**: each is given once
  or not at all;
* `ZoneKeeper.Json.mapM_eq_some_iff` — a list is read item by item.
-/

import Mathlib.Data.List.Forall2
import ZoneKeeper.Json.Fields

set_option autoImplicit false

namespace ZoneKeeper.Json

open ZoneKeeper.Text

/-- The values that the members give for a key, in order. -/
def given (members : List (Option String × Value)) (key : String) : List Value :=
  (members.filter fun m => m.1 == some key).map Prod.snd

/-- Every key is a text. -/
def HasTextKeys (members : List (Option String × Value)) : Prop :=
  ∀ m ∈ members, m.1.isSome = true

/-! ### Members -/

/-- Keyed members are those of an object whose keys are texts. -/
theorem keyedMembers?_eq_some_iff {members : List (Option String × Value)}
    {ms : List (String × Value)} :
    keyedMembers? members = some ms ↔ members = ms.map fun m => (some m.1, m.2) := by
  induction members generalizing ms with
  | nil =>
      rw [keyedMembers?, Option.some.injEq, eq_comm, eq_comm (a := []), List.map_eq_nil_iff]
  | cons m members ih =>
      obtain ⟨key, v⟩ := m
      cases key with
      | none =>
          refine iff_of_false (fun h => nomatch h) fun h => ?_
          cases ms with
          | nil | cons => cases h
      | some key =>
          rw [keyedMembers?, Option.map_eq_some_iff]
          constructor
          · rintro ⟨rest, hrest, rfl⟩
            rw [ih.1 hrest]
            rfl
          · intro h
            cases ms with
            | nil => cases h
            | cons first rest =>
                obtain ⟨hfirst, hrest⟩ := List.cons.inj h
                cases hfirst
                exact ⟨rest, ih.2 hrest, rfl⟩

theorem hasTextKeys_iff {members : List (Option String × Value)} :
    HasTextKeys members ↔ ∃ ms : List (String × Value), members = ms.map fun m => (some m.1, m.2) := by
  constructor
  · intro h
    induction members with
    | nil => exact ⟨[], rfl⟩
    | cons m members ih =>
        obtain ⟨hm, hmembers⟩ := List.forall_mem_cons.1 h
        obtain ⟨ms, rfl⟩ := ih hmembers
        obtain ⟨key, hkey⟩ := Option.isSome_iff_exists.1 hm
        exact ⟨(key, m.2) :: ms, by rw [List.map_cons, ← hkey]⟩
  · rintro ⟨ms, rfl⟩ m hm
    obtain ⟨_, -, rfl⟩ := List.mem_map.1 hm
    rfl

theorem hasTextKeys_map (ms : List (String × Value)) :
    HasTextKeys (ms.map fun m => (some m.1, m.2)) :=
  hasTextKeys_iff.2 ⟨ms, rfl⟩

/-- The value of a key is the one that is given for it. -/
theorem memberValue?_eq_some_iff {ms : List (String × Value)} {key : String} {v : Option Value} :
    memberValue? ms key = some v ↔ given (ms.map fun m => (some m.1, m.2)) key = v.toList := by
  have hgiven : given (ms.map fun m => (some m.1, m.2)) key =
      (ms.filter fun m => m.1 == key).map Prod.snd := by
    rw [given, List.filter_map, List.map_map]
    rfl
  rw [hgiven, memberValue?]
  generalize (ms.filter fun m => m.1 == key) = found
  cases found with
  | nil =>
      cases v with
      | none => simp
      | some v => simp
  | cons m rest =>
      cases rest with
      | nil =>
          cases v with
          | none => simp
          | some v => simp
      | cons m' rest =>
          -- a key that is given twice has no value
          cases v with
          | none => simp
          | some v => simp

/-! ### Lists -/

/-- A list is read item by item. -/
theorem mapM_eq_some_iff {α β : Type} {f : α → Option β} {xs : List α} {ys : List β} :
    xs.mapM f = some ys ↔ List.Forall₂ (fun x y => f x = some y) xs ys := by
  induction xs generalizing ys with
  | nil =>
      rw [List.mapM_nil, List.forall₂_nil_left_iff]
      exact ⟨fun h => (Option.some.inj h).symm, fun h => congrArg some h.symm⟩
  | cons x xs ih =>
      rw [List.mapM_cons]
      cases hx : f x with
      | none =>
          refine iff_of_false (fun h => nomatch h) fun h => ?_
          cases h with
          | cons h _ => cases hx.symm.trans h
      | some y =>
          cases hxs : xs.mapM f with
          | none =>
              refine iff_of_false (fun h => nomatch h) fun h => ?_
              cases h with
              | cons _ h => cases hxs.symm.trans (ih.2 h)
          | some rest =>
              constructor
              · intro h
                cases h
                exact .cons hx (ih.1 hxs)
              · intro h
                cases h with
                | cons h hrest =>
                    cases hx.symm.trans h
                    cases hxs.symm.trans (ih.2 hrest)
                    rfl

theorem Value.text?_eq_some_iff {v : Value} {text : String} :
    v.text? = some text ↔ v = .string (some text) := by
  cases v with
  | string t => simp [Value.text?]
  | _ => exact iff_of_false (fun h => nomatch h) fun h => nomatch h

/-! ### Fields -/

/-- **The fields of an object**: its keys are texts, and each field is given once or not at all. -/
theorem fieldValues?_object_eq_some_iff {fields : List Field}
    {members : List (Option String × Value)} {vs : List (Option Value)} :
    fieldValues? fields (.object members) = some vs ↔
      HasTextKeys members ∧
        List.Forall₂ (fun f v => given members f.name = v.toList) fields vs := by
  rw [fieldValues?, Option.bind_eq_some_iff, hasTextKeys_iff]
  constructor
  · rintro ⟨ms, hms, hvs⟩
    obtain rfl := keyedMembers?_eq_some_iff.1 hms
    refine ⟨⟨ms, rfl⟩, (mapM_eq_some_iff.1 hvs).imp fun f v h => ?_⟩
    exact memberValue?_eq_some_iff.1 h
  · rintro ⟨⟨ms, rfl⟩, hvs⟩
    refine ⟨ms, keyedMembers?_eq_some_iff.2 rfl, mapM_eq_some_iff.2 (hvs.imp fun f v h => ?_)⟩
    exact memberValue?_eq_some_iff.2 h

end ZoneKeeper.Json
