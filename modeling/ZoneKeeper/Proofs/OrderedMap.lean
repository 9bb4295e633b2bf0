/-
**Maps in the order of insertion.**

A map is a list of keys with their values in which no key stands twice.  Putting a value under a
key that is there replaces the value in its place; a new key goes to the end.

Main definitions:

* `ZoneKeeper.OrderedMap` — a map, with the fact that its keys are distinct;
* `ZoneKeeper.OrderedMap.find?`, `ZoneKeeper.OrderedMap.put` — reading and writing.

Main results:

* `ZoneKeeper.OrderedMap.filter_key` — the entries of a key are the one that is found, if any;
* `ZoneKeeper.OrderedMap.entries_put_of_mem`, `ZoneKeeper.OrderedMap.entries_put_of_not_mem` — the
  entries after writing.
-/

import Mathlib.Data.List.Nodup

set_option autoImplicit false

namespace ZoneKeeper

/-- A map that keeps its entries in the order in which their keys came. -/
structure OrderedMap (κ ν : Type) where
  entries : List (κ × ν)
  nodup_keys : (entries.map Prod.fst).Nodup

namespace OrderedMap

variable {κ ν : Type}

/-- The map without entries. -/
def empty : OrderedMap κ ν :=
  ⟨[], List.nodup_nil⟩

/-- The keys, oldest first. -/
def keys (m : OrderedMap κ ν) : List κ :=
  m.entries.map Prod.fst

theorem nodup_keys_append {m : OrderedMap κ ν} {k : κ} (h : k ∉ m.keys) (v : ν) :
    ((m.entries ++ [(k, v)]).map Prod.fst).Nodup := by
  rw [List.map_append, List.map_singleton]
  exact m.nodup_keys.append (List.nodup_singleton k) (List.disjoint_singleton.2 h)

variable [DecidableEq κ]

/-- The value under a key. -/
def find? (m : OrderedMap κ ν) (k : κ) : Option ν :=
  (m.entries.find? fun e => e.1 = k).map Prod.snd

/-- The entries with the value under a key replaced. -/
def overwrite (es : List (κ × ν)) (k : κ) (v : ν) : List (κ × ν) :=
  es.map fun e => if e.1 = k then (k, v) else e

theorem map_fst_overwrite (es : List (κ × ν)) (k : κ) (v : ν) :
    (overwrite es k v).map Prod.fst = es.map Prod.fst := by
  rw [overwrite, List.map_map]
  refine List.map_congr_left fun e _ => ?_
  by_cases he : e.1 = k
  · simp [he]
  · simp [he]

/-- Puts a value under a key: in the key's place if it has one, and at the end if not. -/
def put (m : OrderedMap κ ν) (k : κ) (v : ν) : OrderedMap κ ν :=
  if h : k ∈ m.keys then
    ⟨overwrite m.entries k v, (map_fst_overwrite m.entries k v).symm ▸ m.nodup_keys⟩
  else
    ⟨m.entries ++ [(k, v)], nodup_keys_append h v⟩

variable {m : OrderedMap κ ν} {k : κ}

theorem entries_put_of_mem (h : k ∈ m.keys) (v : ν) :
    (m.put k v).entries = overwrite m.entries k v := by
  rw [put, dif_pos h]

theorem entries_put_of_not_mem (h : k ∉ m.keys) (v : ν) :
    (m.put k v).entries = m.entries ++ [(k, v)] := by
  rw [put, dif_neg h]

theorem keys_put_of_mem (h : k ∈ m.keys) (v : ν) : (m.put k v).keys = m.keys := by
  rw [keys, entries_put_of_mem h, map_fst_overwrite, keys]

theorem keys_put_of_not_mem (h : k ∉ m.keys) (v : ν) : (m.put k v).keys = m.keys ++ [k] := by
  rw [keys, entries_put_of_not_mem h, List.map_append, List.map_singleton, keys]

/-- The entries of a key: the one that is found, or none. -/
theorem filter_key (m : OrderedMap κ ν) (k : κ) :
    (m.entries.filter fun e => e.1 = k) = (m.find? k).toList.map fun v => (k, v) := by
  obtain ⟨entries, hnodup⟩ := m
  change (entries.filter fun e => e.1 = k) =
    ((entries.find? fun e => e.1 = k).map Prod.snd).toList.map fun v => (k, v)
  induction entries with
  | nil => rfl
  | cons e es ih =>
      rw [List.map_cons, List.nodup_cons] at hnodup
      by_cases he : e.1 = k
      · -- the keys are distinct, so no other entry has this one
        have hrest : (es.filter fun e => e.1 = k) = [] := by
          rw [List.filter_eq_nil_iff]
          intro e' he' hk
          exact hnodup.1 (List.mem_map.2 ⟨e', he', (of_decide_eq_true hk).trans he.symm⟩)
        subst he
        rw [List.filter_cons, if_pos (decide_eq_true rfl), hrest, List.find?_cons,
          decide_eq_true rfl]
        rfl
      · rw [List.filter_cons, if_neg fun hk => he (of_decide_eq_true hk), List.find?_cons,
          decide_eq_false he]
        exact ih hnodup.2

theorem mem_entries_of_find? {v : ν} (h : m.find? k = some v) : (k, v) ∈ m.entries := by
  have hmem : (k, v) ∈ m.entries.filter fun e => e.1 = k := by
    rw [filter_key, h]
    exact List.mem_singleton_self _
  exact (List.mem_filter.1 hmem).1

theorem find?_of_mem_entries {v : ν} (h : (k, v) ∈ m.entries) : m.find? k = some v := by
  have hmem : (k, v) ∈ m.entries.filter fun e => e.1 = k :=
    List.mem_filter.2 ⟨h, decide_eq_true rfl⟩
  rw [filter_key] at hmem
  obtain ⟨w, hw, hv⟩ := List.mem_map.1 hmem
  rw [Option.mem_toList.1 hw, (Prod.mk.inj hv).2]

/-- The entry of a key is the one that is found. -/
theorem eq_of_mem_entries {e : κ × ν} {v : ν} (he : e ∈ m.entries) (h : m.find? k = some v)
    (hk : e.1 = k) : e = (k, v) :=
  List.inj_on_of_nodup_map m.nodup_keys he (mem_entries_of_find? h) hk

theorem mem_keys_of_find? {v : ν} (h : m.find? k = some v) : k ∈ m.keys :=
  List.mem_map.2 ⟨(k, v), mem_entries_of_find? h, rfl⟩

theorem not_mem_keys_of_find? (h : m.find? k = none) : k ∉ m.keys := by
  intro hk
  obtain ⟨⟨k', v⟩, hmem, rfl⟩ := List.mem_map.1 hk
  exact nomatch h.symm.trans (find?_of_mem_entries hmem)

end OrderedMap

end ZoneKeeper
