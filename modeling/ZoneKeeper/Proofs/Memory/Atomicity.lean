/-
**A step that fails has only made calls.**

A call of the store is counted before anything else happens to it, and what can fail it, an armed
operation, a zone that the handle does not know or an id that no record has, is looked at before
anything is written.  An update makes a second call only after one that reads, so it has written
nothing when it fails, whichever of its calls does.  A step that fails therefore leaves the session
as it was, but for the counts of the calls that it made; and because a creation that fails takes no
number, the ids of all records that are ever created follow each other without a gap.

Main definitions:

* `ZoneKeeper.Memory.Result.isFailure` — the result of a step is a failure;
* `ZoneKeeper.Memory.Session.counting` — a session with more calls counted;
* `ZoneKeeper.Memory.Step.created?` — the id that a step created a record under;
* `ZoneKeeper.Memory.Session.TookIds` — the records that were created have taken the ids in order.

Main results:

* `ZoneKeeper.Memory.perform_eq_error` — a call that fails is counted, and that is all;
* `ZoneKeeper.Memory.Session.Sound.step_of_failure` — **a step that fails has only made calls**;
* `ZoneKeeper.Memory.Session.tookIds_run` — the ids that are handed out, in order;
* `ZoneKeeper.Memory.failed_steps_only_count` — the two together, for every session.
-/

import ZoneKeeper.Proofs.Memory.Tally

set_option autoImplicit false

namespace ZoneKeeper.Memory

open ZoneKeeper.Text CallCounts

/-! ### Calls and updates that fail -/

/-- **A call that fails is counted, and that is all.** -/
theorem perform_eq_error {zones : ZoneTable} {call : Call} {s s' : Store} {e : Error}
    (h : (provider zones).perform call s = (.error e, s')) : s' = s.count call.operation := by
  cases call with
  | resolveZone zone =>
      have hstate := state_perform zones (.resolveZone zone) rfl s
      rw [Provider.perform_recorded, h] at hstate
      exact hstate
  | listRecords zoneId type name =>
      have hstate := state_perform zones (.listRecords zoneId type name) rfl s
      rw [Provider.perform_recorded, h] at hstate
      exact hstate
  | createRecord zoneId payload =>
      have hrun : Store.createRecord zoneId payload s = (.error e, s') :=
        (Provider.perform_createRecord_iff (p := provider zones)).1 h
      exact (Store.createRecord_eq_error hrun).2.2
  | updateRecord zoneId id payload =>
      have hrun : Store.updateRecord zoneId id payload s = (.error e, s') :=
        (Provider.perform_updateRecord_iff (p := provider zones)).1 h
      by_cases hf : s.failOn = some .update
      · exact (Prod.mk.inj ((Store.updateRecord_of_armed hf).symm.trans hrun)).2.symm
      · cases hr : replaceFirst id (payload.toRecord id) (s.records zoneId) with
        | none => exact (Prod.mk.inj ((Store.updateRecord_of_missing hf hr).symm.trans hrun)).2.symm
        | some rs => cases (Store.updateRecord_of_found hf hr).symm.trans hrun

/-- An update that fails has only made calls. -/
theorem Effect.of_error {zone : Zone} {name : String} {address : Address} {ttl : UInt32}
    {s s' : Store} {e : Error} (h : Effect zone name address ttl s (.error e) s') :
    ∃ counts, s' = { s with counts := counts } := by
  cases h with
  | lookupFailed _ _ => exact ⟨_, rfl⟩
  | updateFailed _ _ _ _ => exact ⟨_, rfl⟩
  | createFailed _ _ _ => exact ⟨_, rfl⟩

/-! ### Steps that fail -/

/-- The result of a step is a failure: of what was asked, or because there is no such reconciler or
no address in the text. -/
def Result.isFailure : Result → Bool
  | .failed _ => true
  | .noReconciler => true
  | .noAddress => true
  | _ => false

namespace Session

/-- The session with the calls counted, and otherwise as it is. -/
def counting (s : Session) (calls : List Call) : Session :=
  { s with
    store := { s.store with counts := s.store.counts + tally (calls.map Call.operation) } }

/-- A step that fails changes counts at most. -/
theorem Sound.eq_of_failure {s : Session} (hs : s.Sound) {x : Step}
    (h : (s.step x).1.result.isFailure = true) :
    ∃ counts, (s.step x).2 = { s with store := { s.store with counts := counts } } := by
  cases x with
  | call handle call =>
      obtain ⟨hresult, hafter⟩ := s.step_call handle call
      rw [hresult] at h
      rw [hafter]
      rcases hrun : (provider (s.zonesOf handle)).perform call s.store with ⟨e | a, store⟩
      · obtain rfl := perform_eq_error hrun
        exact ⟨_, rfl⟩
      · rw [hrun] at h
        cases h
  | bind handle zone =>
      have hmove := s.move_bind handle zone
      generalize (s.step (.bind handle zone)).2 = s' at hmove ⊢
      generalize (s.step (.bind handle zone)).1.result = result at hmove h
      cases hmove with
      | bound => cases h
      | bindFailed => exact ⟨_, rfl⟩
      | quiet hx => cases hx
  | update r name text ttl =>
      have hmove := hs.move (x := .update r name text ttl) rfl
      generalize (s.step (.update r name text ttl)).2 = s' at hmove ⊢
      generalize (s.step (.update r name text ttl)).1.result = result at hmove h
      cases hmove with
      | @update _ _ _ _ _ _ _ result store _ _ he =>
          cases result with
          | ok o => cases h
          | error e =>
              obtain ⟨counts, rfl⟩ := he.of_error
              exact ⟨counts, rfl⟩
      | noReconciler _ => exact ⟨s.store.counts, rfl⟩
      | noAddress _ => exact ⟨s.store.counts, rfl⟩
      | quiet hx => cases hx
  | _ => cases h

/-- **A step that fails has only made calls.** -/
theorem Sound.step_of_failure {s : Session} (hs : s.Sound) {x : Step}
    (h : (s.step x).1.result.isFailure = true) : (s.step x).2 = s.counting (s.calls x) := by
  obtain ⟨counts, hafter⟩ := hs.eq_of_failure h
  have hcounted := (hs.calls_step x).counted
  rw [hafter] at hcounted ⊢
  rw [counting, ← hcounted]

end Session

/-! ### Ids in order -/

/-- The id that the step created a record under, told from its result. -/
def Step.created? : Step → Result → Option String
  | .call _ (.createRecord _ _), .answer (.record r) => some r.id
  | .update _ _ _ _, .outcome (.created _ id _ _) => some id
  | _, _ => none

namespace Session

/-- A created record is one whose id was handed out. -/
theorem Advance.created?_eq {s s' : Session} {x : Step} {result : Result}
    (h : s.Advance x result s') : x.created? result = (s.handsOut? x result).map Prod.snd := by
  cases h with
  | inserted | created _ | replaced _ _ => rfl
  | @writeFailed handle call e _ =>
      cases call with
      | _ => rfl
  | move _ hm =>
      cases hm with
      | update hr _ he =>
          cases he with
          | created _ _ _ _ => simp [Step.created?, handsOut?, Result.ofUpdate, hr]
          | _ => rfl
      | quiet hx =>
          cases x with
          | call handle call =>
              cases call with
              | createRecord zoneId payload => cases hx
              | _ => rfl
          | update r name text ttl => cases hx
          | _ => rfl
      | _ => rfl

/-- The records that were created have taken the ids that were handed out, in order. -/
def TookIds (past : List (Step × Result)) (s : Session) : Prop :=
  past.filterMap (fun p => p.1.created? p.2) =
    (List.range s.store.issued).map fun n => recordId (n + 1)

/-- A step that creates a record takes the next id; any other step takes none. -/
theorem TookIds.step {past : List (Step × Result)} {s : Session} (h : TookIds past s)
    (hs : s.Sound) (x : Step) : TookIds (past ++ [(x, (s.step x).1.result)]) (s.step x).2 := by
  have hadvance := hs.advance x
  rw [TookIds, List.filterMap_append, h, List.filterMap_cons, hadvance.created?_eq]
  rcases hadvance.handsOut?_eq with ⟨hnone, hissued⟩ | ⟨zoneId, hsome, hissued⟩
  · rw [hnone, hissued]
    exact List.append_nil _
  · rw [hsome, hissued, List.range_succ, List.map_append]
    rfl

/-- **The ids of created records**, in the order in which they were created, are all the ids that
were handed out. -/
theorem tookIds_run (zones : List (String × String)) (xs : List (Option String × Step)) :
    TookIds ((start zones).history xs) ((start zones).run xs).2 := by
  have hstep : ∀ (past : List (Step × Result)) (s : Session) (x : Step), True →
      s.Sound ∧ TookIds past s →
      (s.step x).2.Sound ∧ TookIds (past ++ [(x, (s.step x).1.result)]) (s.step x).2 :=
    fun _ _ x _ h => ⟨(h.1.advance x).sound h.1, h.2.step h.1 x⟩
  exact (run_induction (P := fun past s => s.Sound ∧ TookIds past s) (fun _ _ _ h => h) hstep xs
    (fun _ _ => trivial) [] (start zones) ⟨Sound.start zones, rfl⟩).2

end Session

open Session

/-- **A step that fails has only made calls.**  In every session, a step that fails leaves the
records of all zones, the zones that the handles know, the reconcilers, what is armed to fail and
the number of ids handed out as they were; only its calls have been counted.  So the ids of the
records that were created, by direct calls and through reconcilers, in whatever zones, are `rec-1`,
`rec-2` and so on, without a gap. -/
theorem failed_steps_only_count (zones : List (String × String))
    (xs : List (Option String × Step)) :
    let start := Session.start zones
    let created := (start.history xs).filterMap fun p => p.1.created? p.2
    start.Along (fun s x => (s.step x).1.result.isFailure = true →
        (s.step x).2 = s.counting (s.calls x)) xs ∧
      created = (List.range created.length).map fun n => "rec-" ++ natText (n + 1) := by
  intro start created
  refine ⟨Sound.along (fun s x hs => ?_) (Sound.start zones) xs, ?_⟩
  · exact hs.step_of_failure
  · have hcreated : created =
        (List.range (start.run xs).2.store.issued).map fun n => recordId (n + 1) :=
      tookIds_run zones xs
    have hlength : created.length = (start.run xs).2.store.issued := by
      rw [hcreated, List.length_map, List.length_range]
    rw [hlength]
    exact hcreated

/-- Creations that fail between two that do not: one through a reconciler, which has looked the name
up before, and one in another zone by a direct call. -/
theorem failed_creations_take_no_id :
    let before : List (Option String × Step) :=
      [(none, .bind 0 "example.com"), (none, .update 0 "www.example.com" "192.0.2.1" 300),
        (none, .failOn .create)]
    let update := Step.update 0 "ftp.example.com" "192.0.2.2" 300
    let create :=
      Step.call 0 (.createRecord "zone-456" ⟨.a, "mail.example.org", "192.0.2.3", 60⟩)
    let xs := before ++ (none, update) :: [(none, create), (none, .clearFailure), (none, create)]
    let start := Session.start [("example.com", "zone-123")]
    let armed := (start.run before).2
    (start.run xs).1.map (fun report => report.result.isFailure) =
        [false, false, false, true, true, false, false] ∧
      (armed.step update).2 = armed.counting (armed.calls update) ∧
      (armed.calls update).map Call.operation = [.fetch, .create] ∧
      (start.history xs).filterMap (fun p => p.1.created? p.2) = ["rec-1", "rec-2"] := by
  intro before update create xs start armed
  obtain ⟨hfailed, hcreated⟩ := failed_steps_only_count [("example.com", "zone-123")] xs
  have hafter := along_append_cons hfailed
  rw [watching_none] at hafter
  have hlength : ((start.history xs).filterMap fun p => p.1.created? p.2).length = 2 := by
    decide +kernel
  refine ⟨by decide +kernel, hafter (by decide +kernel), by decide +kernel, ?_⟩
  rw [hcreated, hlength]
  decide +kernel

end ZoneKeeper.Memory
