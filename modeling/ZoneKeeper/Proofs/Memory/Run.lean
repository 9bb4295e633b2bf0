/-
**Steps and runs of a memory session.**

What a step of a session does is said here once, as a relation with seven rules, and what holds
along a run is reduced to what one step preserves.  A property of a run may speak about its
history: the steps with their results, in order.

The relation leaves out the steps that write without a reconciler, and it asks that the session is
sound: that its reconcilers are those that binding yields.

Main definitions:

* `ZoneKeeper.Memory.Session.Sound` — the reconcilers are bound on the store through some handle;
* `ZoneKeeper.Memory.Session.Move` — the moves that a session can make;
* `ZoneKeeper.Memory.Session.history` — the steps of a run with their results.

Main results:

* `ZoneKeeper.Memory.Session.Sound.move` — **every step without a direct write is a move**;
* `ZoneKeeper.Memory.Session.Move.sound` — moves keep a session sound;
* `ZoneKeeper.Memory.Session.run_induction` — **what every step preserves holds along a run**.
-/

import ZoneKeeper.Proofs.Memory.Effect

set_option autoImplicit false

namespace ZoneKeeper.Memory

/-- The result of a step that updates a record. -/
def Result.ofUpdate : Except Error Outcome → Result
  | .ok o => .outcome o
  | .error e => .failed e

theorem Result.eq_ok_of_ofUpdate {result : Except Error Outcome} {o : Outcome}
    (h : Result.ofUpdate result = .outcome o) : result = .ok o := by
  cases result with
  | ok o' => exact congrArg Except.ok (Result.outcome.inj h)
  | error e => cases h

namespace Step

/-- The step writes records without a reconciler. -/
def writesDirectly : Step → Bool
  | .insertRecord _ _ => true
  | .call _ c => c.isWrite
  | _ => false

/-- The step asks or concerns a handle, and nothing else. -/
def isQuiet : Step → Bool
  | .clone _ => true
  | .withZone _ _ _ => true
  | .providerName _ => true
  | .call _ c => !c.isWrite
  | _ => false

end Step

/-- A direct call that does not write is counted, and leaves the store as it is. -/
theorem state_perform (zones : ZoneTable) (call : Call) (hc : call.isWrite = false) (s : Store) :
    ((provider zones).recorded.perform call ⟨s, [], []⟩).2.state = s.count call.operation := by
  cases call with
  | resolveZone zone =>
      change (Store.resolveZone zones.find? zone s).2 = s.count .resolveZone
      by_cases hf : s.failOn = some .resolveZone
      · rw [show Store.resolveZone zones.find? zone s = (.error _, s.count .resolveZone) from
          if_pos hf]
      · refine (congrArg Prod.snd (if_neg hf)).trans ?_
        cases zones.find? zone with
        | none => rfl
        | some id => rfl
  | listRecords zoneId type name =>
      cases type
      change (Store.listRecords zoneId .a name s).2 = s.count .fetch
      rw [Store.listRecords_eq]
  | createRecord zoneId payload => cases hc
  | updateRecord zoneId id payload => cases hc

namespace Session

/-! ### Moves -/

/-- The reconcilers are bound on the store through some handle. -/
def Sound (s : Session) : Prop :=
  ∀ r ∈ s.reconcilers, ∃ zones, r = Reconciler.observed (provider zones) r.zone

theorem Sound.start (zones : List (String × String)) : (Session.start zones).Sound :=
  fun _ hr => nomatch hr

/-- The moves that a session can make without a direct write: the step, its result, and the
session after it. -/
inductive Move (s : Session) : Step → Result → Session → Prop
  /-- A reconciler updates a record. -/
  | update {r : Nat} {zones : ZoneTable} {zone : Zone} {name text : String} {address : Address}
      {ttl : Int32} {result : Except Error Outcome} {store : Store} :
      s.reconcilers[r]? = some (Reconciler.observed (provider zones) zone) →
      Address.parse? text = some address →
      Effect zone (RecordName.complete name) address (effectiveTtl ttl) s.store result store →
      Move s (.update r name text ttl) (.ofUpdate result) { s with store := store }
  /-- The reconciler of an update is not there. -/
  | noReconciler {r : Nat} {name text : String} {ttl : Int32} : s.reconcilers[r]? = none →
      Move s (.update r name text ttl) .noReconciler s
  /-- The address of an update cannot be read. -/
  | noAddress {r : Nat} {name text : String} {ttl : Int32} : Address.parse? text = none →
      Move s (.update r name text ttl) .noAddress s
  | failOn {op : Operation} :
      Move s (.failOn op) .done { s with store := { s.store with failOn := some op } }
  | clearFailure : Move s .clearFailure .done { s with store := { s.store with failOn := none } }
  /-- A reconciler is bound. -/
  | bound {handle : Nat} {id zoneName inspected : String} {counts : CallCounts} :
      Move s (.bind handle zoneName) (.bound ⟨id, zoneName⟩ inspected)
        { s with
          store := { s.store with counts := counts }
          reconcilers := s.reconcilers ++
            [Reconciler.observed (provider (s.zonesOf handle)) ⟨id, zoneName⟩] }
  /-- Binding a reconciler fails. -/
  | bindFailed {handle : Nat} {zoneName : String} {e : Error} {counts : CallCounts} :
      Move s (.bind handle zoneName) (.failed e)
        { s with store := { s.store with counts := counts } }
  /-- A step that asks or concerns a handle. -/
  | quiet {x : Step} {result : Result} {handles : List ZoneTable} {counts : CallCounts} :
      x.isQuiet = true →
      Move s x result { s with store := { s.store with counts := counts }, handles := handles }

/-- An update has an effect on the store, and leaves the rest of the session alone. -/
theorem step_update {s : Session} {r : Nat} {zones : ZoneTable} {zone : Zone} {text : String}
    {address : Address}
    (hr : s.reconcilers[r]? = some (Reconciler.observed (provider zones) zone))
    (ha : Address.parse? text = some address) (name : String) (ttl : Int32) :
    ∃ result store,
      Effect zone (RecordName.complete name) address (effectiveTtl ttl) s.store result store ∧
      (s.step (.update r name text ttl)).1.result = .ofUpdate result ∧
      (s.step (.update r name text ttl)).2 = { s with store := store } := by
  obtain ⟨calls, result, store, h⟩ := exists_course (provider zones) zone
    (RecordName.complete name) address (effectiveTtl ttl) s.store
  refine ⟨result, store, effect_of_course _ _ _ _ _ h, ?_⟩
  have hrun := h.update_eq [] []
  cases result with
  | error e => simp [step, perform, hr, ha, hrun, Result.ofUpdate]
  | ok o => simp [step, perform, hr, ha, hrun, Result.ofUpdate]

/-- Binding a reconciler is a move. -/
theorem move_bind (s : Session) (handle : Nat) (zoneName : String) :
    s.Move (.bind handle zoneName) (s.step (.bind handle zoneName)).1.result
      (s.step (.bind handle zoneName)).2 := by
  have hb := Reconciler.bind_recorded (provider (s.zonesOf handle)) s.store [] [] zoneName
  cases hf : DomainName.fault? zoneName with
  | some fault =>
      simp only [hf] at hb
      simp only [step, perform, providerOf, hb]
      exact .bindFailed
  | none =>
      have hstate : ((provider (s.zonesOf handle)).resolveZone zoneName s.store).2 =
          s.store.count .resolveZone :=
        state_perform (s.zonesOf handle) (.resolveZone zoneName) rfl s.store
      rcases hl : (provider (s.zonesOf handle)).resolveZone zoneName s.store with ⟨e | id, store⟩
      · obtain rfl : store = s.store.count .resolveZone := by rw [← hstate, hl]
        simp only [hf, hl] at hb
        simp only [step, perform, providerOf, hb]
        exact .bindFailed
      · obtain rfl : store = s.store.count .resolveZone := by rw [← hstate, hl]
        simp only [hf, hl] at hb
        simp only [step, perform, providerOf, hb]
        exact .bound

/-- **Every step of a sound session without a direct write is a move.** -/
theorem Sound.move {s : Session} (hs : s.Sound) {x : Step} (hx : x.writesDirectly = false) :
    s.Move x (s.step x).1.result (s.step x).2 := by
  cases x with
  | clone handle => exact .quiet rfl
  | withZone handle zone zoneId => exact .quiet rfl
  | insertRecord zoneId record => cases hx
  | failOn op => exact .failOn
  | clearFailure => exact .clearFailure
  | call handle call =>
      have hstate := state_perform (s.zonesOf handle) call hx s.store
      have hquiet : (Step.call handle call).isQuiet = true := by
        simpa [Step.isQuiet, Step.writesDirectly] using hx
      simp only [step, perform, providerOf]
      split
      · rw [hstate]
        exact .quiet hquiet
      · rw [hstate]
        exact .quiet hquiet
  | providerName handle => exact .quiet rfl
  | bind handle zone => exact s.move_bind handle zone
  | update r name text ttl =>
      cases hr : s.reconcilers[r]? with
      | none =>
          simp only [step, perform, hr]
          exact .noReconciler hr
      | some bound =>
          cases ha : Address.parse? text with
          | none =>
              simp only [step, perform, hr, ha]
              exact .noAddress ha
          | some address =>
              obtain ⟨zones, hz⟩ := hs bound (List.mem_of_getElem? hr)
              have hr' := hr.trans (congrArg some hz)
              obtain ⟨result, store, he, hresult, hafter⟩ := step_update hr' ha name ttl
              rw [hresult, hafter]
              exact .update hr' ha he

/-- Moves keep a session sound. -/
theorem Move.sound {s s' : Session} {x : Step} {result : Result} (h : s.Move x result s')
    (hs : s.Sound) : s'.Sound := by
  cases h with
  | bound =>
      intro r hr
      rcases List.mem_append.1 hr with hr | hr
      · exact hs r hr
      · obtain rfl := List.mem_singleton.1 hr
        exact ⟨_, rfl⟩
  | _ => exact hs

/-- Records change only with an outcome that says so. -/
theorem Move.records_eq {s s' : Session} {x : Step} {result : Result} (h : s.Move x result s')
    (hresult : ∀ o, result = .outcome o → o.changed = false) :
    s'.store.records = s.store.records := by
  cases h with
  | update _ _ he =>
      cases he with
      | updated _ _ _ _ _ _ => exact nomatch hresult _ rfl
      | created _ _ _ _ => exact nomatch hresult _ rfl
      | _ => rfl
  | _ => rfl

/-! ### Runs -/

/-- The session that watches one more zone, if one is given. -/
def watching (s : Session) (zoneId : Option String) : Session :=
  (zoneId.map s.watch).getD s

@[simp] theorem watching_none (s : Session) : s.watching none = s := rfl

theorem watching_eq (s : Session) (zoneId : Option String) :
    ∃ watched, s.watching zoneId = { s with watched := watched } := by
  cases zoneId with
  | none => exact ⟨s.watched, rfl⟩
  | some z =>
      change ∃ watched, s.watch z = _
      rw [watch]
      split
      · exact ⟨s.watched, rfl⟩
      · exact ⟨_, rfl⟩

/-- The steps of a run with their results, in order. -/
def history (s : Session) (xs : List (Option String × Step)) : List (Step × Result) :=
  (xs.map Prod.snd).zip ((s.run xs).1.map Report.result)

theorem history_cons (s : Session) (z : Option String) (x : Step)
    (xs : List (Option String × Step)) :
    s.history ((z, x) :: xs) =
      (x, ((s.watching z).step x).1.result) :: ((s.watching z).step x).2.history xs := rfl

theorem run_cons (s : Session) (z : Option String) (x : Step)
    (xs : List (Option String × Step)) :
    (s.run ((z, x) :: xs)).2 = (((s.watching z).step x).2.run xs).2 := rfl

theorem map_fst_history (s : Session) (xs : List (Option String × Step)) :
    (s.history xs).map Prod.fst = xs.map Prod.snd := by
  induction xs generalizing s with
  | nil => rfl
  | cons zx xs ih =>
      obtain ⟨z, x⟩ := zx
      rw [history_cons, List.map_cons, ih, List.map_cons]

/-- **What every step preserves holds along a run.**  The property speaks about the history so far
and the session that it led to. -/
theorem run_induction {P : List (Step × Result) → Session → Prop} {allowed : Step → Prop}
    (hwatch : ∀ past s watched, P past s → P past { s with watched := watched })
    (hstep : ∀ past s x, allowed x → P past s →
      P (past ++ [(x, (s.step x).1.result)]) (s.step x).2)
    (xs : List (Option String × Step)) (hxs : ∀ x ∈ xs, allowed x.2)
    (past : List (Step × Result)) (s : Session) (h : P past s) :
    P (past ++ s.history xs) (s.run xs).2 := by
  induction xs generalizing past s with
  | nil => simpa [history, run] using h
  | cons zx xs ih =>
      obtain ⟨z, x⟩ := zx
      obtain ⟨watched, hw⟩ := s.watching_eq z
      have hP : P past (s.watching z) := hw ▸ hwatch past s watched h
      have hx : allowed x := hxs (z, x) List.mem_cons_self
      rw [history_cons, run_cons, List.append_cons]
      exact ih (fun y hy => hxs y (List.mem_cons_of_mem _ hy)) _ _ (hstep past _ x hx hP)

end Session

end ZoneKeeper.Memory
