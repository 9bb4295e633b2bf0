/-
**Which settings pass the check.**

The check looks at the token, at the base and at the zone, in this order, and stops at the first
thing that is wrong.

Main definitions:

* `ZoneKeeper.Settings.BehindScheme` — what follows the scheme of a web address;
* `ZoneKeeper.Settings.IsScheme` — the two schemes.

Main results:

* `ZoneKeeper.Settings.isWebAddress_iff` — a web address is a scheme with any text behind it;
* `ZoneKeeper.Settings.fault?_eq_none_iff` — **which settings pass the check**.
-/

import ZoneKeeper.Settings

set_option autoImplicit false

namespace ZoneKeeper.Settings

open ZoneKeeper.Text

/-! ### Web addresses -/

/-- The text is the scheme of a web address with `rest` behind it. -/
def BehindScheme (text rest : String) : Prop :=
  text = "http://" ++ rest ∨ text = "https://" ++ rest

/-- The characters of a scheme of the web. -/
def IsScheme (scheme : List Char) : Prop :=
  scheme = "http".toList ∨ scheme = "https".toList

theorem behindScheme_iff {text rest : String} :
    BehindScheme text rest ↔
      ∃ scheme, IsScheme scheme ∧ text.toList = scheme ++ ':' :: '/' :: '/' :: rest.toList := by
  rw [BehindScheme, ← String.toList_inj, ← String.toList_inj, String.toList_append,
    String.toList_append]
  constructor
  · rintro (h | h)
    · exact ⟨_, .inl rfl, h⟩
    · exact ⟨_, .inr rfl, h⟩
  · rintro ⟨scheme, rfl | rfl, h⟩
    · exact .inl h
    · exact .inr h

theorem isPrefixOf_toList_iff {front text : String} :
    front.toList.isPrefixOf text.toList = true ↔ ∃ rest, text = front ++ rest := by
  rw [List.isPrefixOf_iff_prefix]
  constructor
  · rintro ⟨rest, h⟩
    refine ⟨String.ofList rest, String.toList_injective ?_⟩
    rw [String.toList_append, String.toList_ofList, h]
  · rintro ⟨rest, rfl⟩
    rw [String.toList_append]
    exact List.prefix_append _ _

/-- A web address is a scheme with any text behind it, be it none. -/
theorem isWebAddress_iff {text : String} :
    isWebAddress text = true ↔ ∃ rest, BehindScheme text rest := by
  rw [isWebAddress, Bool.or_eq_true, isPrefixOf_toList_iff, isPrefixOf_toList_iff]
  simp only [BehindScheme, exists_or]

/-! ### The check -/

variable {s : Settings}

theorem fault?_of_not_web (htoken : allBlank s.token = false) {base : String}
    (hbase : s.apiBase = some base) (hweb : isWebAddress base = false) :
    s.fault? = some (.base base) := by
  rw [fault?, htoken, if_neg Bool.false_ne_true, hbase,
    Option.filter_some_pos (by rw [hweb]; rfl)]

theorem fault?_of_web (htoken : allBlank s.token = false)
    (hweb : ∀ base, s.apiBase = some base → isWebAddress base = true) :
    s.fault? = (DomainName.fault? s.zone).map .zone := by
  have hnone : s.apiBase.filter (fun base => !isWebAddress base) = none := by
    rw [Option.filter_eq_none_iff]
    intro base hbase
    rw [hweb base hbase]
    exact Bool.false_ne_true
  rw [fault?, htoken, if_neg Bool.false_ne_true, hnone]

/-- **Which settings pass the check**: the token is not blank, the base is a web address if there is
one, and the zone is a domain name. -/
theorem fault?_eq_none_iff :
    s.fault? = none ↔
      allBlank s.token = false ∧ (∀ base, s.apiBase = some base → isWebAddress base = true) ∧
        DomainName.fault? s.zone = none := by
  by_cases htoken : allBlank s.token = true
  · rw [fault?, if_pos htoken, htoken]
    exact iff_of_false (fun h => nomatch h) fun h => nomatch h.1
  · rw [Bool.not_eq_true] at htoken
    by_cases hweb : ∀ base, s.apiBase = some base → isWebAddress base = true
    · rw [fault?_of_web htoken hweb, Option.map_eq_none_iff]
      exact ⟨fun h => ⟨htoken, hweb, h⟩, fun h => h.2.2⟩
    · refine iff_of_false (fun h => hweb fun base hbase => ?_) fun h => hweb h.2.1
      cases hbegin : isWebAddress base with
      | true => rfl
      | false =>
          rw [fault?_of_not_web htoken hbase hbegin] at h
          cases h

end ZoneKeeper.Settings
