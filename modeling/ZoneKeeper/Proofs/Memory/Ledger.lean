/-
**The ledger of a session.**

Whoever reads along the steps of a session and their results can keep a ledger of what the store
must hold: which zones reconcilers were bound to, which operation is armed, and for each place, a
zone with a name, the record that the last outcome there reported as written.  The ledger does not
look into the store.  From the ledger alone the result of the next update can be foretold.

Main definitions:

* `ZoneKeeper.Memory.Ledger` — the ledger;
* `ZoneKeeper.Memory.Ledger.ofHistory` — the ledger of the steps of a run with their results;
* `ZoneKeeper.Memory.Ledger.foretell` — the result of the next update, as the ledger has it;
* `ZoneKeeper.Memory.recordsIn` — the records that a map of places holds in a zone.

Main results:

* `ZoneKeeper.Memory.recordsIn_put_of_mem`, `ZoneKeeper.Memory.recordsIn_put_of_not_mem` — the
  records after an entry;
* `ZoneKeeper.Memory.filter_recordsIn` — the records of a name are the one under its place.
-/

import ZoneKeeper.Proofs.OrderedMap
import ZoneKeeper.Proofs.Memory.Run

set_option autoImplicit false

namespace ZoneKeeper.Memory

/-- Where a record stands: the id of its zone and its full name. -/
abbrev Place := String × String

/-- What is held at a place. -/
structure Holding where
  id : String
  content : String
  ttl : UInt32
  deriving DecidableEq, Repr

/-- The record that is held at a place. -/
def Holding.toRecord (h : Holding) (place : Place) : Record :=
  ⟨h.id, .a, place.2, h.content, h.ttl⟩

/-! ### Records of a map -/

/-- The records that are held in the zone with the given id, in the order of the map. -/
def recordsIn (m : OrderedMap Place Holding) (zoneId : String) : List Record :=
  (m.entries.filter fun e => e.1.1 = zoneId).map fun e => e.2.toRecord e.1

section

variable {m : OrderedMap Place Holding} {place : Place}

/-- A new place adds its record at the end of its zone. -/
theorem recordsIn_put_of_not_mem (h : place ∉ m.keys) (new : Holding) (zoneId : String) :
    recordsIn (m.put place new) zoneId =
      recordsIn m zoneId ++ if place.1 = zoneId then [new.toRecord place] else [] := by
  rw [recordsIn, OrderedMap.entries_put_of_not_mem h, List.filter_append, List.map_append]
  by_cases hz : place.1 = zoneId
  · simp [recordsIn, hz]
  · simp [recordsIn, hz]

/-- A place that is there has its record replaced. -/
theorem recordsIn_put_of_mem (h : place ∈ m.keys) (new : Holding) (zoneId : String) :
    recordsIn (m.put place new) zoneId =
      (m.entries.filter fun e => e.1.1 = zoneId).map fun e =>
        if e.1 = place then new.toRecord place else e.2.toRecord e.1 := by
  rw [recordsIn, OrderedMap.entries_put_of_mem h, OrderedMap.overwrite, List.filter_map,
    List.map_map]
  -- an entry that is replaced stays in its zone
  have hzone : ((fun e : Place × Holding => decide (e.1.1 = zoneId)) ∘
      fun e => if e.1 = place then (place, new) else e) = fun e => decide (e.1.1 = zoneId) := by
    funext e
    by_cases he : e.1 = place
    · simp [he]
    · simp [he]
  rw [hzone]
  refine List.map_congr_left fun e _ => ?_
  by_cases he : e.1 = place
  · simp [he]
  · simp [he]

/-- Other zones keep their records. -/
theorem recordsIn_put_of_ne {zoneId : String} (h : place.1 ≠ zoneId) (new : Holding) :
    recordsIn (m.put place new) zoneId = recordsIn m zoneId := by
  by_cases hk : place ∈ m.keys
  · rw [recordsIn_put_of_mem hk, recordsIn]
    refine List.map_congr_left fun e he => ?_
    have hz : e.1.1 = zoneId := of_decide_eq_true (List.mem_filter.1 he).2
    have hne : e.1 ≠ place := by
      rintro rfl
      exact h hz
    exact if_neg hne
  · rw [recordsIn_put_of_not_mem hk, if_neg h, List.append_nil]

/-- The records of a name in a zone: the one that is held at the place, or none. -/
theorem filter_recordsIn (m : OrderedMap Place Holding) (zoneId name : String) :
    ((recordsIn m zoneId).filter fun r => r.name == name) =
      (m.find? (zoneId, name)).toList.map fun h => h.toRecord (zoneId, name) := by
  have hplace : ((m.entries.filter fun e => e.1.1 = zoneId).filter
      ((fun r : Record => r.name == name) ∘ fun e => e.2.toRecord e.1)) =
        m.entries.filter fun e => e.1 = (zoneId, name) := by
    rw [List.filter_filter]
    refine List.filter_congr fun e _ => ?_
    simp [Holding.toRecord, Prod.ext_iff, Bool.and_comm, beq_eq_decide]
  rw [recordsIn, List.filter_map, hplace, OrderedMap.filter_key, List.map_map]
  rfl

/-- No two records of a zone have one name. -/
theorem nodup_name_recordsIn (m : OrderedMap Place Holding) (zoneId : String) :
    ((recordsIn m zoneId).map Record.name).Nodup := by
  have hkeys : ((m.entries.filter fun e => e.1.1 = zoneId).map Prod.fst).Nodup :=
    m.nodup_keys.sublist (List.filter_sublist.map Prod.fst)
  have hname : (recordsIn m zoneId).map Record.name =
      ((m.entries.filter fun e => e.1.1 = zoneId).map Prod.fst).map Prod.snd := by
    rw [recordsIn, List.map_map, List.map_map]
    rfl
  have hzone : ∀ p ∈ (m.entries.filter fun e => e.1.1 = zoneId).map Prod.fst, p.1 = zoneId := by
    intro p hp
    obtain ⟨e, he, rfl⟩ := List.mem_map.1 hp
    exact of_decide_eq_true (List.mem_filter.1 he).2
  rw [hname]
  exact hkeys.map_on fun p hp q hq hpq => Prod.ext ((hzone p hp).trans (hzone q hq).symm) hpq

/-- If no two places hold one id, no two records of a zone have one. -/
theorem nodup_id_recordsIn (h : (m.entries.map fun e => e.2.id).Nodup) (zoneId : String) :
    ((recordsIn m zoneId).map Record.id).Nodup := by
  rw [recordsIn, List.map_map]
  exact h.sublist (List.filter_sublist.map _)

/-- Entering a record under the id that it has keeps the ids of the entries. -/
theorem map_id_put {held new : Holding} (hfind : m.find? place = some held)
    (hid : new.id = held.id) :
    (m.put place new).entries.map (fun e => e.2.id) = m.entries.map fun e => e.2.id := by
  rw [OrderedMap.entries_put_of_mem (OrderedMap.mem_keys_of_find? hfind), OrderedMap.overwrite,
    List.map_map]
  refine List.map_congr_left fun e he => ?_
  by_cases hp : e.1 = place
  · have heq : e = (place, held) := OrderedMap.eq_of_mem_entries he hfind hp
    simp [heq, hid]
  · simp [hp]

end

/-! ### The ledger -/

/-- The ledger. -/
structure Ledger where
  /-- The zones of the reconcilers, in the order in which these were bound. -/
  zones : List Zone := []
  /-- What is held at each place, in the order in which the places came. -/
  held : OrderedMap Place Holding := .empty
  /-- The places of the records that were reported as created, in order. -/
  created : List Place := []
  /-- The operation that is armed to fail. -/
  armed : Option Operation := none

namespace Ledger

/-- Notes the outcome of an update that asked for an address and a time to live at a place: only a
record that was written is entered. -/
def noteOutcome (l : Ledger) (place : Place) (address : Address) (ttl : UInt32) :
    Outcome → Ledger
  | .created _ id _ _ =>
      { l with
        held := l.held.put place ⟨id, address.text, ttl⟩
        created := l.created ++ [place] }
  | .updated _ id _ _ _ => { l with held := l.held.put place ⟨id, address.text, ttl⟩ }
  | _ => l

/-- Notes a step and its result. -/
def note (l : Ledger) : Step → Result → Ledger
  | .bind _ _, .bound zone _ => { l with zones := l.zones ++ [zone] }
  | .failOn op, _ => { l with armed := some op }
  | .clearFailure, _ => { l with armed := none }
  | .update r name text ttl, .outcome o =>
      match l.zones[r]?, Address.parse? text with
      | some zone, some address =>
          l.noteOutcome (zone.id, RecordName.complete name) address (effectiveTtl ttl) o
      | _, _ => l
  | _, _ => l

/-- The ledger of the steps of a run with their results. -/
def ofHistory (history : List (Step × Result)) : Ledger :=
  history.foldl (fun l x => l.note x.1 x.2) {}

/-- The result that the ledger foretells for bringing the record with the full name `name` to
`address` in the zone. -/
def foretell (l : Ledger) (zone : Zone) (name : String) (address : Address) (ttl : UInt32) :
    Except Error Outcome :=
  if ¬ zone.name.toList <:+ name.toList then .ok (.outsideZone name)
  else if l.armed = some .fetch then .error ((injectedFailure .fetch).during .fetch name)
  else
    match l.held.find? (zone.id, name) with
    | none =>
        if l.armed = some .create then .error ((injectedFailure .create).during .create name)
        else .ok (.created name (recordId (l.created.length + 1)) address ttl)
    | some h =>
        if h.content = address.text then .ok (.unchanged name address)
        else if l.armed = some .update then
          .error ((injectedFailure .update).during .update name)
        else .ok (.updated name h.id h.content address ttl)

theorem ofHistory_append (history : List (Step × Result)) (x : Step) (result : Result) :
    ofHistory (history ++ [(x, result)]) = (ofHistory history).note x result := by
  rw [ofHistory, List.foldl_append]
  rfl

theorem note_outcome {l : Ledger} {r : Nat} {zone : Zone} {name text : String}
    {address : Address} {ttl : Int32} (hz : l.zones[r]? = some zone)
    (ha : Address.parse? text = some address) (o : Outcome) :
    l.note (.update r name text ttl) (.outcome o) =
      l.noteOutcome (zone.id, RecordName.complete name) address (effectiveTtl ttl) o := by
  simp only [note, hz, ha]

theorem note_quiet {l : Ledger} {x : Step} (hx : x.isQuiet = true) (result : Result) :
    l.note x result = l := by
  cases x with
  | clone | withZone | providerName | call => rfl
  | insertRecord | failOn | clearFailure | bind | update => cases hx

end Ledger

end ZoneKeeper.Memory
