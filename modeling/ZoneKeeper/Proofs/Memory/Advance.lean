/-
**Steps of every kind.**

`ZoneKeeper.Memory.Session.Move` is about the steps that write through a reconciler at most.  Here
the steps are added that write directly, by putting a record into a zone or by calling an
operation, so that what every step preserves can be said of all sessions.

A step only ever adds a record at the end of a zone, or replaces one by a record with the same id.
The ids of a zone are therefore all that a step has to be asked about: it leaves those that are
there in their places and adds at most one.

Main definitions:

* `ZoneKeeper.Memory.Session.Advance` — the ways in which a session advances;
* `ZoneKeeper.Memory.Session.ids` — the ids of the records of a zone;
* `ZoneKeeper.Memory.Session.handsOut?` — the id that a step hands out, and its zone;
* `ZoneKeeper.Memory.Session.adds?` — the id of the record that a step adds, and its zone;
* `ZoneKeeper.Memory.Session.Along` — what holds at every step of a run.

Main results:

* `ZoneKeeper.Memory.Session.Sound.advance` — **every step is an advance**;
* `ZoneKeeper.Memory.Session.Advance.ids_eq` — **the ids after a step**: those before it, and the
  one that it adds;
* `ZoneKeeper.Memory.Session.Advance.handsOut?_eq` — the ids are handed out in order;
* `ZoneKeeper.Memory.Session.along_of` — **what holds at every step that keeps an invariant holds
  along a run**;
* `ZoneKeeper.Memory.Session.sound_run` — every session is sound.
-/

import ZoneKeeper.Proofs.Memory.Run

set_option autoImplicit false

namespace ZoneKeeper.Memory

/-- The result of a step that calls an operation directly. -/
def Result.ofCall : Except Error Answer → Result
  | .ok a => .answer a
  | .error e => .failed e

theorem perform_listRecords (zones : ZoneTable) (zoneId : String) (type : RecordType)
    (name : String) (s : Store) :
    (provider zones).perform (.listRecords zoneId type name) s =
      ((Store.listRecords zoneId type name s).1.map .records,
        (Store.listRecords zoneId type name s).2) := rfl

theorem perform_createRecord (zones : ZoneTable) (zoneId : String) (payload : Payload) (s : Store) :
    (provider zones).perform (.createRecord zoneId payload) s =
      ((Store.createRecord zoneId payload s).1.map .record,
        (Store.createRecord zoneId payload s).2) := rfl

theorem perform_updateRecord (zones : ZoneTable) (zoneId id : String) (payload : Payload)
    (s : Store) :
    (provider zones).perform (.updateRecord zoneId id payload) s =
      ((Store.updateRecord zoneId id payload s).1.map .record,
        (Store.updateRecord zoneId id payload s).2) := rfl

namespace Session

/-! ### Advances -/

/-- The ways in which a session advances: the step, its result, and the session after it. -/
inductive Advance (s : Session) : Step → Result → Session → Prop
  /-- A step without a direct write. -/
  | move {x : Step} {result : Result} {s' : Session} : x.writesDirectly = false →
      s.Move x result s' → Advance s x result s'
  /-- A record is put into a zone. -/
  | inserted {zoneId : String} {r : Record} :
      Advance s (.insertRecord zoneId r) .done { s with store := s.store.insert zoneId r }
  /-- A record is created by a direct call. -/
  | created {handle : Nat} {zoneId : String} {payload : Payload} :
      s.store.failOn ≠ some .create →
      Advance s (.call handle (.createRecord zoneId payload))
        (.answer (.record (payload.toRecord (recordId (s.store.issued + 1)))))
        { s with
          store := { (s.store.count .create).insert zoneId
              (payload.toRecord (recordId (s.store.issued + 1))) with
            issued := s.store.issued + 1 } }
  /-- A record is replaced by a direct call. -/
  | replaced {handle : Nat} {zoneId id : String} {payload : Payload} {rs : List Record} :
      s.store.failOn ≠ some .update →
      replaceFirst id (payload.toRecord id) (s.store.records zoneId) = some rs →
      Advance s (.call handle (.updateRecord zoneId id payload))
        (.answer (.record (payload.toRecord id)))
        { s with store := (s.store.count .update).setRecords zoneId rs }
  /-- A direct write fails. -/
  | writeFailed {handle : Nat} {call : Call} {e : Error} : call.isWrite = true →
      Advance s (.call handle call) (.failed e)
        { s with store := s.store.count call.operation }

/-- A direct call comes to what the operation on the store answers. -/
theorem step_call (s : Session) (handle : Nat) (call : Call) :
    let run := (provider (s.zonesOf handle)).perform call s.store
    (s.step (.call handle call)).1.result = Result.ofCall run.1 ∧
      (s.step (.call handle call)).2 = { s with store := run.2 } := by
  intro run
  have hrun := Provider.perform_recorded (provider (s.zonesOf handle)) call s.store [] []
  rcases hanswer : run with ⟨e | a, store⟩
  · have hfail : (provider (s.zonesOf handle)).perform call s.store = (.error e, store) := hanswer
    simp [step, perform, providerOf, hrun, hfail, Result.ofCall]
  · have hok : (provider (s.zonesOf handle)).perform call s.store = (.ok a, store) := hanswer
    simp [step, perform, providerOf, hrun, hok, Result.ofCall]

/-- A direct call that writes is an advance. -/
theorem advance_call (s : Session) (handle : Nat) (call : Call) (hw : call.isWrite = true) :
    s.Advance (.call handle call) (s.step (.call handle call)).1.result
      (s.step (.call handle call)).2 := by
  obtain ⟨hresult, hafter⟩ := s.step_call handle call
  rw [hresult, hafter]
  cases call with
  | resolveZone zone => cases hw
  | listRecords zoneId type name => cases hw
  | createRecord zoneId payload =>
      rcases hc : Store.createRecord zoneId payload s.store with ⟨e | new, store⟩
      · have hrun : (provider (s.zonesOf handle)).perform (.createRecord zoneId payload) s.store =
            (.error e, store) := by rw [perform_createRecord, hc]; rfl
        obtain ⟨-, -, rfl⟩ := Store.createRecord_eq_error hc
        rw [hrun]
        exact .writeFailed rfl
      · have hrun : (provider (s.zonesOf handle)).perform (.createRecord zoneId payload) s.store =
            (.ok (.record new), store) := by rw [perform_createRecord, hc]; rfl
        obtain ⟨hf, rfl, rfl⟩ := Store.createRecord_eq_ok hc
        rw [hrun]
        exact .created hf
  | updateRecord zoneId id payload =>
      rw [perform_updateRecord]
      by_cases hf : s.store.failOn = some .update
      · rw [Store.updateRecord_of_armed hf]
        exact .writeFailed rfl
      · cases hr : replaceFirst id (payload.toRecord id) (s.store.records zoneId) with
        | none =>
            rw [Store.updateRecord_of_missing hf hr]
            exact .writeFailed rfl
        | some rs =>
            rw [Store.updateRecord_of_found hf hr]
            exact .replaced hf hr

/-- **Every step of a sound session is an advance.** -/
theorem Sound.advance {s : Session} (hs : s.Sound) (x : Step) :
    s.Advance x (s.step x).1.result (s.step x).2 := by
  by_cases hx : x.writesDirectly = false
  · exact .move hx (hs.move hx)
  · cases x with
    | insertRecord zoneId r => exact .inserted
    | call handle call => exact s.advance_call handle call (Bool.not_eq_false _ ▸ hx)
    | _ => exact absurd rfl hx

/-- Advances keep a session sound. -/
theorem Advance.sound {s s' : Session} {x : Step} {result : Result} (h : s.Advance x result s')
    (hs : s.Sound) : s'.Sound := by
  cases h with
  | move _ hm => exact hm.sound hs
  | _ => exact hs

/-! ### Ids -/

/-- The ids of the records of a zone, oldest first. -/
def ids (s : Session) (zoneId : String) : List String :=
  (s.store.records zoneId).map Record.id

/-- The id that a step hands out to a record that it creates, and the zone of the record. -/
def handsOut? (s : Session) : Step → Result → Option (String × String)
  | .call _ (.createRecord zoneId _), .answer (.record r) => some (zoneId, r.id)
  | .update r _ _ _, .outcome (.created _ id _ _) =>
      s.reconcilers[r]?.map fun bound => (bound.zone.id, id)
  | _, _ => none

/-- The id of the record that a step adds, and the zone of the record. -/
def adds? (s : Session) : Step → Result → Option (String × String)
  | .insertRecord zoneId r, _ => some (zoneId, r.id)
  | x, result => s.handsOut? x result

/-- The ids of the pairs that are about the zone. -/
def inZone (zoneId : String) (added : Option (String × String)) : List String :=
  (added.filter fun a => a.1 = zoneId).toList.map Prod.snd

theorem ids_insert (s : Store) (zoneId z : String) (r : Record) :
    ((s.insert zoneId r).records z).map Record.id =
      (s.records z).map Record.id ++ inZone z (some (zoneId, r.id)) := by
  rw [Store.insert, Store.records_setRecords]
  by_cases hz : z = zoneId
  · subst hz
    simp [inZone, Option.filter]
  · simp [inZone, Option.filter, hz, Ne.symm hz]

theorem ids_setRecords {s : Store} {zoneId id : String} {new : Record} {rs : List Record}
    (hid : new.id = id) (h : replaceFirst id new (s.records zoneId) = some rs) (z : String) :
    ((s.setRecords zoneId rs).records z).map Record.id = (s.records z).map Record.id := by
  rw [Store.records_setRecords]
  by_cases hz : z = zoneId
  · rw [if_pos hz, hz, map_id_of_replaceFirst hid h]
  · rw [if_neg hz]

theorem adds?_quiet (s : Session) {x : Step} (hx : x.isQuiet = true) (result : Result) :
    s.adds? x result = none := by
  cases x with
  | call handle call =>
      cases call with
      | createRecord zoneId payload => cases hx
      | _ => rfl
  | clone _ | withZone _ _ _ | providerName _ => rfl
  | _ => cases hx

/-- The ids after an update: those before it, and the one of a record that it reports as created. -/
theorem ids_of_effect {s : Session} {r : Nat} {zones : ZoneTable} {zone : Zone}
    (hr : s.reconcilers[r]? = some (Reconciler.observed (provider zones) zone))
    {fullName : String} {address : Address} {ttl : UInt32} {result : Except Error Outcome}
    {store : Store} (h : Effect zone fullName address ttl s.store result store)
    (name text : String) (requested : Int32) (zoneId : String) :
    (store.records zoneId).map Record.id =
      s.ids zoneId ++ inZone zoneId (s.adds? (.update r name text requested) (.ofUpdate result)) := by
  cases h with
  | @updated first _ _ _ _ _ _ _ hrs =>
      have hids := ids_setRecords (s := (s.store.count .fetch).count .update)
        (rfl : (Record.mk first.id .a fullName address.text ttl).id = first.id) hrs zoneId
      exact hids.trans (List.append_nil _).symm
  | created _ _ _ _ =>
      have hadds : s.adds? (.update r name text requested)
          (.ofUpdate (.ok (.created fullName (recordId (s.store.issued + 1)) address ttl))) =
            some (zone.id, recordId (s.store.issued + 1)) := by
        simp [adds?, handsOut?, Result.ofUpdate, hr]
      rw [hadds]
      exact ids_insert _ zone.id zoneId _
  | _ => exact (List.append_nil _).symm

/-- **The ids after a step**: those before it in their places, and the one that it adds. -/
theorem Advance.ids_eq {s s' : Session} {x : Step} {result : Result} (h : s.Advance x result s')
    (zoneId : String) :
    s'.ids zoneId = s.ids zoneId ++ inZone zoneId (s.adds? x result) := by
  cases h with
  | inserted => exact ids_insert s.store _ zoneId _
  | created _ => exact ids_insert (s.store.count .create) _ zoneId _
  | @replaced _ _ id payload _ _ hrs =>
      have hids := ids_setRecords (s := s.store.count .update) (payload.toRecord_id id) hrs zoneId
      exact hids.trans (List.append_nil _).symm
  | @writeFailed handle call e _ =>
      cases call with
      | _ => exact (List.append_nil _).symm
  | move _ hm =>
      cases hm with
      | update hr _ he => exact ids_of_effect hr he _ _ _ zoneId
      | quiet hx =>
          rw [s.adds?_quiet hx]
          exact (List.append_nil _).symm
      | _ => exact (List.append_nil _).symm

/-- A step hands out the next id, or none and leaves the number of ids handed out alone. -/
theorem Advance.handsOut?_eq {s s' : Session} {x : Step} {result : Result}
    (h : s.Advance x result s') :
    (s.handsOut? x result = none ∧ s'.store.issued = s.store.issued) ∨
      ∃ zoneId, s.handsOut? x result = some (zoneId, recordId (s.store.issued + 1)) ∧
        s'.store.issued = s.store.issued + 1 := by
  cases h with
  | inserted => exact .inl ⟨rfl, rfl⟩
  | created _ => exact .inr ⟨_, rfl, rfl⟩
  | replaced _ _ => exact .inl ⟨rfl, rfl⟩
  | @writeFailed handle call e _ => exact .inl ⟨by cases call <;> rfl, rfl⟩
  | move _ hm =>
      cases hm with
      | quiet hx =>
          refine .inl ⟨?_, rfl⟩
          have hadds := s.adds?_quiet hx result
          cases x with
          | insertRecord _ _ => cases hx
          | _ => exact hadds
      | update hr _ he =>
          cases he with
          | created _ _ _ _ => exact .inr ⟨_, by simp only [handsOut?, Result.ofUpdate, hr]; rfl, rfl⟩
          | _ => exact .inl ⟨rfl, rfl⟩
      | _ => exact .inl ⟨rfl, rfl⟩

/-! ### Runs -/

/-- A session stays sound, whatever is asked of it. -/
theorem sound_run (zones : List (String × String)) (xs : List (Option String × Step)) :
    ((start zones).run xs).2.Sound := by
  have hstep : ∀ (_ : List (Step × Result)) (s : Session) (x : Step), True → s.Sound →
      (s.step x).2.Sound := fun _ s x _ h => (h.advance x).sound h
  exact run_induction (P := fun _ s => s.Sound) (fun _ _ _ h => h) hstep xs (fun _ _ => trivial)
    [] _ (Sound.start zones)

/-- The property holds at every step of a run: of the session before the step, and of the step. -/
def Along (s : Session) (P : Session → Step → Prop) : List (Option String × Step) → Prop
  | [] => True
  | (zoneId, x) :: xs =>
      P (s.watching zoneId) x ∧ ((s.watching zoneId).step x).2.Along P xs

instance instDecidableAlong (s : Session) (P : Session → Step → Prop)
    [∀ s x, Decidable (P s x)] : (xs : List (Option String × Step)) → Decidable (s.Along P xs)
  | [] => isTrue trivial
  | (zoneId, x) :: xs =>
      @instDecidableAnd _ _ inferInstance
        (instDecidableAlong ((s.watching zoneId).step x).2 P xs)

/-- What holds at a step of a run holds of the session that the steps before it lead to. -/
theorem along_append_cons {s : Session} {P : Session → Step → Prop}
    {xs ys : List (Option String × Step)} {zoneId : Option String} {x : Step}
    (h : s.Along P (xs ++ (zoneId, x) :: ys)) : P ((s.run xs).2.watching zoneId) x := by
  induction xs generalizing s with
  | nil => exact h.1
  | cons zx xs ih => exact ih h.2

theorem along_true (s : Session) (xs : List (Option String × Step)) :
    s.Along (fun _ _ => True) xs := by
  induction xs generalizing s with
  | nil => trivial
  | cons zx xs ih => exact ⟨trivial, ih _⟩

theorem along_and {s : Session} {P Q : Session → Step → Prop} {xs : List (Option String × Step)}
    (hP : s.Along P xs) (hQ : s.Along Q xs) : s.Along (fun s x => P s x ∧ Q s x) xs := by
  induction xs generalizing s with
  | nil => trivial
  | cons zx xs ih => exact ⟨⟨hP.1, hQ.1⟩, ih hP.2 hQ.2⟩

/-- **What holds along a run.**  A property that every step has from a session with the invariant
holds at every step, if the steps keep the invariant.  What is known of the steps of the run may be
used. -/
theorem along_of {I : Session → Prop} {H P : Session → Step → Prop}
    (hwatch : ∀ s watched, I s → I { s with watched := watched })
    (hstep : ∀ s x, I s → H s x → P s x ∧ I (s.step x).2)
    {xs : List (Option String × Step)} {s : Session} (hs : I s) (hxs : s.Along H xs) :
    s.Along P xs := by
  induction xs generalizing s with
  | nil => trivial
  | cons zx xs ih =>
      obtain ⟨z, x⟩ := zx
      obtain ⟨watched, hw⟩ := s.watching_eq z
      have hI : I (s.watching z) := hw ▸ hwatch s watched hs
      obtain ⟨hP, hnext⟩ := hstep _ x hI hxs.1
      exact ⟨hP, ih hnext hxs.2⟩

/-- What holds of every step of a sound session holds along a run. -/
theorem Sound.along {P : Session → Step → Prop} (hP : ∀ s x, s.Sound → P s x) {s : Session}
    (hs : s.Sound) (xs : List (Option String × Step)) : s.Along P xs :=
  along_of (I := Sound) (fun _ _ h => h)
    (fun s x h _ => ⟨hP s x h, (h.advance x).sound h⟩) hs (along_true s xs)

end Session

end ZoneKeeper.Memory
