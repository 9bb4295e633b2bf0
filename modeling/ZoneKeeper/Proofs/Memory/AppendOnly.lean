/-
**A zone keeps what it has, in the order in which it came.**

Whatever is asked of a session, no step takes a record out of a zone, moves one, or gives one
another id: a record is replaced in its place and under its id, and a new one goes to the end of
one zone.  So the place of a record tells when it was added, and a listing, which goes through the
places of a zone from the first to the last, is in the order in which the records were added.

Main definitions:

* `ZoneKeeper.Memory.Session.addedTo` — the ids that were added to a zone;
* `ZoneKeeper.Memory.Session.additions` — what the steps of a run add, told from their results.

Main results:

* `ZoneKeeper.Memory.Session.Sound.ids_run` — **the ids after a run**: those before it, and the
  ones that its steps added;
* `ZoneKeeper.Memory.Session.step_listRecords` — what a listing comes to;
* `ZoneKeeper.Memory.store_is_append_only` — the two together, for every session.
-/

import ZoneKeeper.Proofs.Memory.Advance

set_option autoImplicit false

namespace ZoneKeeper.Memory

namespace Session

/-! ### What a run adds -/

/-- The ids that were added to the zone, out of all that were added. -/
def addedTo (zoneId : String) (added : List (String × String)) : List String :=
  (added.filter fun a => a.1 = zoneId).map Prod.snd

theorem addedTo_append (zoneId : String) (added more : List (String × String)) :
    addedTo zoneId (added ++ more) = addedTo zoneId added ++ addedTo zoneId more := by
  rw [addedTo, List.filter_append, List.map_append]
  rfl

theorem addedTo_toList (zoneId : String) (added : Option (String × String)) :
    addedTo zoneId added.toList = inZone zoneId added := by
  cases added with
  | none => rfl
  | some a => by_cases ha : a.1 = zoneId <;> simp [addedTo, inZone, Option.filter, ha]

/-- What the steps of a run add, in order: the ids of records, each with the zone of the record. -/
def additions (s : Session) : List (Option String × Step) → List (String × String)
  | [] => []
  | (zoneId, x) :: xs =>
      let next := (s.watching zoneId).step x
      ((s.watching zoneId).adds? x next.1.result).toList ++ next.2.additions xs

/-- **The ids after a run**: those before it in their places, and the ones that its steps added. -/
theorem Sound.ids_run {s : Session} (hs : s.Sound) (xs : List (Option String × Step))
    (zoneId : String) :
    (s.run xs).2.ids zoneId = s.ids zoneId ++ addedTo zoneId (s.additions xs) := by
  induction xs generalizing s with
  | nil => exact (List.append_nil _).symm
  | cons zx xs ih =>
      obtain ⟨z, x⟩ := zx
      obtain ⟨watched, hw⟩ := s.watching_eq z
      have hsound : (s.watching z).Sound := hw ▸ hs
      have hids : (s.watching z).ids zoneId = s.ids zoneId := by rw [hw]; rfl
      have hstep := hsound.advance x
      rw [run_cons, ih (hstep.sound hsound), hstep.ids_eq, hids, additions, addedTo_append,
        addedTo_toList, List.append_assoc]

/-! ### Listings -/

/-- A listing goes through the records of a zone from the first to the last and takes those of the
name, unless lookups are armed to fail. -/
theorem step_listRecords (s : Session) (handle : Nat) (zoneId name : String) :
    (s.step (.call handle (.listRecords zoneId .a name))).1.result =
      if s.store.failOn = some .fetch then .failed (injectedFailure .fetch)
      else .answer (.records ((s.store.records zoneId).filter fun r => r.name == name)) := by
  rw [(s.step_call handle _).1, perform_listRecords, Store.listRecords_eq]
  dsimp only
  split
  · rfl
  · rfl

end Session

open Session

/-- **The store is append-only.**  In every session, each step leaves the ids of every zone in their
places and adds at most one record, over all zones, at the end of its zone.  So the ids of a zone
are those that the steps so far have added to it, in their order, and they are the first ids of the
zone for good.  A listing answers the records of the name in the order of their places, unless it is
armed to fail. -/
theorem store_is_append_only (zones : List (String × String)) (xs : List (Option String × Step)) :
    let start := Session.start zones
    let s := (start.run xs).2
    start.Along (fun s x =>
        (∀ zoneId, s.ids zoneId <+: (s.step x).2.ids zoneId) ∧
          ∃ added : Option (String × String), ∀ zoneId,
            (s.step x).2.ids zoneId = s.ids zoneId ++ addedTo zoneId added.toList) xs ∧
      (∀ zoneId, s.ids zoneId = addedTo zoneId (start.additions xs)) ∧
      (∀ ys zoneId, s.ids zoneId <+: (s.run ys).2.ids zoneId) ∧
      ∀ handle zoneId name,
        (s.step (.call handle (.listRecords zoneId .a name))).1.result =
          if s.store.failOn = some .fetch then .failed (injectedFailure .fetch)
          else .answer (.records ((s.store.records zoneId).filter fun r => r.name == name)) := by
  intro start s
  have hstart : start.Sound := Sound.start zones
  have hs : s.Sound := sound_run zones xs
  refine ⟨Sound.along (fun s x hs => ?_) hstart xs, fun zoneId => hstart.ids_run xs zoneId,
    fun ys zoneId => ?_, s.step_listRecords⟩
  · have hids := (hs.advance x).ids_eq
    refine ⟨fun zoneId => ?_, s.adds? x (s.step x).1.result, fun zoneId => ?_⟩
    · rw [hids]
      exact List.prefix_append _ _
    · rw [hids, addedTo_toList]
  · rw [hs.ids_run ys zoneId]
    exact List.prefix_append _ _

end ZoneKeeper.Memory
