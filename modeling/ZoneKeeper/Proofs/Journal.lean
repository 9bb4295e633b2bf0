/-
**The log tells what happened.**

A reconciler writes to its log after the fact: nothing for a call that fails, also not for a write
that fails after a lookup that did not, and one entry for any other.  So the log of many calls is a
list of their entries, one for each call that did not fail, and what a call came to can be read off
the level of its entry.  This holds of any providers, and of any number of reconcilers that share a
log, bound one after another in the midst of other calls.

Main definitions:

* `ZoneKeeper.Outcome.level` — how much an outcome matters;
* `ZoneKeeper.Task`, `ZoneKeeper.Task.perform` — a call on reconcilers that share a log;
* `ZoneKeeper.Event`, `ZoneKeeper.Event.entries` — what a task comes to, and its entries;
* `ZoneKeeper.performAll` — many tasks, one after the other.

Main results:

* `ZoneKeeper.Reconciler.log_bind`, `ZoneKeeper.Reconciler.log_update` — what a call writes;
* `ZoneKeeper.log_performAll` — the log of many tasks;
* `ZoneKeeper.log_tells_what_happened` — **the log tells what happened**.
-/

import ZoneKeeper.Proofs.Course

set_option autoImplicit false

namespace ZoneKeeper

variable {σ : Type}

/-! ### What a call writes -/

/-- How much an outcome matters: a name that is skipped is worth a warning, and a record that was
written is worth a notice. -/
def Outcome.level : Outcome → Level
  | .outsideZone _ => .warn
  | .unchanged _ _ => .debug
  | .updated _ _ _ _ _ => .info
  | .created _ _ _ _ => .info

theorem Outcome.level_eq_info_iff (o : Outcome) : o.level = .info ↔ o.changed = true := by
  cases o <;> simp [Outcome.level, Outcome.changed]

namespace Reconciler

@[simp] theorem level_outcomeEntry (zone : String) (o : Outcome) :
    (outcomeEntry zone o).level = o.level := by
  cases o <;> rfl

/-- What binding writes: an entry for the zone that was found, and nothing for a failure. -/
def entriesOfBind (provider : String) : Except Error Zone → List Entry
  | .error _ => []
  | .ok zone => [resolvedEntry provider zone]

/-- Binding writes an entry if it does not fail. -/
theorem log_bind (p : Provider (StateM σ)) (zoneName : String) (s : Recorded σ) :
    let run := Reconciler.bind p.recorded zoneName Recorded.write s
    run.2.log = s.log ++ entriesOfBind p.name (run.1.map Reconciler.zone) := by
  intro run
  have hrun : run = _ := bind_recorded p s.state s.calls s.log zoneName
  cases hf : DomainName.fault? zoneName with
  | some fault =>
      simp only [hf] at hrun
      rw [hrun]
      exact (List.append_nil _).symm
  | none =>
      rcases hl : p.resolveZone zoneName s.state with ⟨e | id, s'⟩
      · simp only [hf, hl] at hrun
        rw [hrun]
        exact (List.append_nil _).symm
      · simp only [hf, hl] at hrun
        rw [hrun]
        rfl

/-- An update writes an entry for its outcome, if it has one. -/
theorem log_update (p : Provider (StateM σ)) (zone : Zone) (name : String) (address : Address)
    (ttl : Int32) (s : Recorded σ) :
    let run := (observed p zone).update name address ttl s
    run.2.log = s.log ++ entriesOf zone.name run.1 := by
  intro run
  obtain ⟨calls, result, s', h⟩ :=
    exists_course p zone (RecordName.complete name) address (effectiveTtl ttl) s.state
  have hrun : run = _ := h.update_eq s.calls s.log
  rw [hrun]

end Reconciler

/-! ### Many calls -/

/-- A call on reconcilers that share a log. -/
inductive Task (σ : Type)
  /-- Binds a reconciler to the zone of the given name at a provider. -/
  | bind (p : Provider (StateM σ)) (zoneName : String)
  /-- Brings a record to an address, by the reconciler with the given number. -/
  | update (number : Nat) (request : UpdateRequest)

/-- What a task comes to. -/
inductive Event
  | bound (provider : String) (result : Except Error Zone)
  | updated (zone : Zone) (result : Except Error Outcome)
  | noReconciler

namespace Event

/-- The entries that an event leaves in the log. -/
def entries : Event → List Entry
  | .bound provider result => Reconciler.entriesOfBind provider result
  | .updated zone result => Reconciler.entriesOf zone.name result
  | .noReconciler => []

/-- A record was written. -/
def changed : Event → Bool
  | .updated _ (.ok o) => o.changed
  | _ => false

/-- An event leaves a notice exactly if a record was written. -/
theorem countP_info_entries (event : Event) :
    event.entries.countP (·.level = .info) = if event.changed = true then 1 else 0 := by
  cases event with
  | bound provider result =>
      cases result with
      | error e => rfl
      | ok zone => rfl
  | updated zone result =>
      cases result with
      | error e => rfl
      | ok o =>
          by_cases ho : o.changed = true
          · simp [entries, changed, Reconciler.entriesOf, o.level_eq_info_iff.2 ho, ho]
          · simp [entries, changed, Reconciler.entriesOf, mt o.level_eq_info_iff.1 ho, ho]
  | noReconciler => rfl

end Event

/-- Performs a task with the reconcilers bound so far: what it comes to, and the reconcilers after
it. -/
def Task.perform (rs : List (Reconciler (StateM (Recorded σ)))) :
    Task σ → StateM (Recorded σ) (Event × List (Reconciler (StateM (Recorded σ))))
  | .bind p zoneName => do
      match ← Reconciler.bind p.recorded zoneName Recorded.write with
      | .error e => return (.bound p.name (.error e), rs)
      | .ok r => return (.bound p.name (.ok r.zone), rs ++ [r])
  | .update number q =>
      match rs[number]? with
      | none => return (.noReconciler, rs)
      | some r => do
          let result ← r.update q.name q.address q.ttl
          return (.updated r.zone result, rs)

/-- Performs the tasks, one after the other, with the reconcilers bound so far. -/
def performAll (rs : List (Reconciler (StateM (Recorded σ)))) :
    List (Task σ) → StateM (Recorded σ) (List Event)
  | [] => return []
  | t :: ts => do
      let (event, rs') ← t.perform rs
      let events ← performAll rs' ts
      return event :: events

/-- All the reconcilers write to the log beside their provider's calls. -/
def AllObserved (rs : List (Reconciler (StateM (Recorded σ)))) : Prop :=
  ∀ r ∈ rs, ∃ p zone, r = Reconciler.observed p zone

/-- A task writes the entries of what it comes to, and binding adds a reconciler that does so. -/
theorem Task.log_perform {rs : List (Reconciler (StateM (Recorded σ)))} (hrs : AllObserved rs)
    (t : Task σ) (s : Recorded σ) :
    (t.perform rs s).2.log = s.log ++ (t.perform rs s).1.1.entries ∧
      AllObserved (t.perform rs s).1.2 := by
  cases t with
  | bind p zoneName =>
      have hlog := Reconciler.log_bind p zoneName s
      rcases hb : Reconciler.bind p.recorded zoneName Recorded.write s with ⟨e | r, s'⟩
      · rw [Task.perform, StateM.bind_of_eq hb]
        rw [hb] at hlog
        exact ⟨hlog, hrs⟩
      · rw [Task.perform, StateM.bind_of_eq hb]
        rw [hb] at hlog
        refine ⟨hlog, ?_⟩
        intro r' hr'
        rcases List.mem_append.1 hr' with hr' | hr'
        · exact hrs r' hr'
        · obtain rfl := List.mem_singleton.1 hr'
          obtain ⟨id, rfl⟩ := Reconciler.eq_observed_of_bind p hb
          exact ⟨p, ⟨id, zoneName⟩, rfl⟩
  | update number q =>
      rw [Task.perform]
      cases hr : rs[number]? with
      | none => exact ⟨(List.append_nil _).symm, hrs⟩
      | some r =>
          obtain ⟨p, zone, rfl⟩ := hrs r (List.mem_of_getElem? hr)
          have hlog := Reconciler.log_update p zone q.name q.address q.ttl s
          exact ⟨hlog, hrs⟩

/-- **The log of many tasks** is that of what they come to, in order. -/
theorem log_performAll {rs : List (Reconciler (StateM (Recorded σ)))} (hrs : AllObserved rs)
    (tasks : List (Task σ)) (s : Recorded σ) :
    (performAll rs tasks s).2.log = s.log ++ (performAll rs tasks s).1.flatMap Event.entries := by
  induction tasks generalizing rs s with
  | nil => exact (List.append_nil _).symm
  | cons t ts ih =>
      obtain ⟨hlog, hafter⟩ := t.log_perform hrs s
      have hrest := ih hafter (t.perform rs s).2
      rw [hlog, List.append_assoc] at hrest
      exact hrest

/-- As many notices are written as records. -/
theorem countP_info_flatMap (events : List Event) :
    (events.flatMap Event.entries).countP (·.level = .info) = events.countP Event.changed := by
  induction events with
  | nil => rfl
  | cons event events ih =>
      rw [List.flatMap_cons, List.countP_append, ih, event.countP_info_entries, List.countP_cons,
        Nat.add_comm]

/-- **The log tells what happened.**  Binding a reconciler writes one debug entry, and nothing if it
fails.  An update writes nothing if it fails; otherwise it writes one entry, which is told by the
zone's name and the outcome: a warning for a name outside the zone, a debug entry for a record that
was left alone, and a notice for one that was made or replaced, which names the new address and what
it replaces.  So whatever is asked of reconcilers that share a log, on whatever providers, the log
is that of the events in order, and there are as many notices as outcomes that changed something. -/
theorem log_tells_what_happened :
    (∀ (p : Provider (StateM σ)) (zoneName : String) (s : Recorded σ),
      let run := Reconciler.bind p.recorded zoneName Recorded.write s
      (∀ e, run.1 = .error e → run.2.log = s.log) ∧
        ∀ r, run.1 = .ok r → ∃ entry, run.2.log = s.log ++ [entry] ∧ entry.level = .debug) ∧
    (∀ (p : Provider (StateM σ)) (zone : Zone) (name : String) (address : Address) (ttl : Int32)
        (s : Recorded σ),
      let run := (Reconciler.observed p zone).update name address ttl s
      (∀ e, run.1 = .error e → run.2.log = s.log) ∧
        ∀ o, run.1 = .ok o → run.2.log = s.log ++ [Reconciler.outcomeEntry zone.name o]) ∧
    (∀ (zone : String) (o : Outcome), (Reconciler.outcomeEntry zone o).level = o.level) ∧
    (∀ (zone name recordId previous : String) (address : Address) (ttl : UInt32),
      (Reconciler.outcomeEntry zone (.updated name recordId previous address ttl)).text =
          "Updated A record: " ++ name ++ " -> " ++ address.text ++ " (was: " ++ previous ++ ")" ∧
        (Reconciler.outcomeEntry zone (.created name recordId address ttl)).text =
          "Created new A record: " ++ name ++ " -> " ++ address.text) ∧
    ∀ (tasks : List (Task σ)) (s : Recorded σ),
      let run := performAll [] tasks s
      run.2.log = s.log ++ run.1.flatMap Event.entries ∧
        run.2.log.countP (·.level = .info) =
          s.log.countP (·.level = .info) + run.1.countP Event.changed := by
  refine ⟨?_, ?_, Reconciler.level_outcomeEntry, fun _ _ _ _ _ _ => ⟨rfl, rfl⟩, ?_⟩
  · intro p zoneName s run
    have hlog : run.2.log = _ := Reconciler.log_bind p zoneName s
    refine ⟨fun e he => ?_, fun r hr => ?_⟩
    · rw [hlog, show _ = Except.error e from he]
      exact List.append_nil _
    · rw [hlog, show _ = Except.ok r from hr]
      exact ⟨_, rfl, rfl⟩
  · intro p zone name address ttl s run
    have hlog : run.2.log = _ := Reconciler.log_update p zone name address ttl s
    refine ⟨fun e he => ?_, fun o ho => ?_⟩
    · rw [hlog, show _ = Except.error e from he]
      exact List.append_nil _
    · rw [hlog, show _ = Except.ok o from ho]
      rfl
  · intro tasks s run
    have hlog : run.2.log = _ := log_performAll (List.forall_mem_nil _) tasks s
    refine ⟨hlog, ?_⟩
    rw [hlog, List.countP_append, countP_info_flatMap]

end ZoneKeeper
