/-
**The counts of a session are told by its results.**

The store counts calls inside, and what a session reports of them is all that a test can see.  But
each step says by its result which calls it made: a direct call is one call, binding a reconciler is
one lookup unless the zone's name is refused, and an update with an outcome or a failure has made
the calls on the way there.  So the counts after any step are the sum of what the results so far
tell, whatever failed on the way and through whichever handles and reconcilers it was done.

Main definitions:

* `ZoneKeeper.Memory.CallCounts.tally` — how often each operation is in a list;
* `ZoneKeeper.Memory.Session.calls` — the calls that a step makes, as its provider notes them;
* `ZoneKeeper.Memory.Step.operations` — the operations of these calls, told from the result;
* `ZoneKeeper.Memory.Step.wrote` — a call of the step was a write, told from the result.

Main results:

* `ZoneKeeper.Leads.operations_eq` — the calls of an update, over any provider;
* `ZoneKeeper.Memory.Session.Sound.calls_step` — **the calls of a step are counted, and told by its
  result**;
* `ZoneKeeper.Memory.counts_are_told_by_results` — the counts after every step of every session.
-/

import ZoneKeeper.Proofs.Failures
import ZoneKeeper.Proofs.Memory.Accounting
import ZoneKeeper.Proofs.Memory.Advance

set_option autoImplicit false

namespace ZoneKeeper

/-! ### What results tell -/

/-- The operations that an update calls, told from what it comes to. -/
def operationsOf : Except Error Outcome → List Operation
  | .ok (.outsideZone _) => []
  | .ok (.unchanged _ _) => [.fetch]
  | .ok (.updated _ _ _ _ _) => [.fetch, .update]
  | .ok (.created _ _ _ _) => [.fetch, .create]
  | .error (.operation .fetch _ _) => [.fetch]
  | .error (.operation .update _ _) => [.fetch, .update]
  | .error (.operation .create _ _) => [.fetch, .create]
  | .error _ => []

/-- **The calls of an update are told by what it comes to**, whatever its provider answers. -/
theorem Leads.operations_eq {zone : Zone} {name : String} {address : Address} {ttl : UInt32}
    {d : Dialogue} {result : Except Error Outcome} (h : Leads zone name address ttl d result) :
    (d.map Prod.fst).map Call.operation = operationsOf result := by
  cases h with
  | outsideZone _ | lookupFailed _ | unchanged _ _ | updateFailed _ _ | updated _ _
  | createFailed _ | created _ => rfl

namespace Memory

namespace Step

/-- The operations that a step calls, told from its result. -/
def operations : Step → Result → List Operation
  | .call _ c, _ => [c.operation]
  | .bind _ zone, _ => if DomainName.fault? zone = none then [.resolveZone] else []
  | .update _ _ _ _, .outcome o => operationsOf (.ok o)
  | .update _ _ _ _, .failed e => operationsOf (.error e)
  | _, _ => []

/-- One of the calls of a step was a write: it is a direct write, or an update that says that
something has changed, or that failed in replacing or creating. -/
def wrote : Step → Result → Bool
  | .call _ c, _ => c.isWrite
  | .update _ _ _ _, .outcome o => o.changed
  | .update _ _ _ _, .failed (.operation op _ _) => op == .update || op == .create
  | _, _ => false

theorem operations_update (r : Nat) (name address : String) (ttl : Int32)
    (result : Except Error Outcome) :
    (Step.update r name address ttl).operations (.ofUpdate result) = operationsOf result := by
  cases result with
  | error e => rfl
  | ok o => rfl

end Step

/-! ### Counts -/

namespace CallCounts

/-- How often each operation is in the list. -/
def tally (ops : List Operation) : CallCounts where
  resolveZone := ops.count .resolveZone
  list := ops.count .fetch
  create := ops.count .create
  update := ops.count .update

instance : Zero CallCounts := ⟨{}⟩

/-- Operation by operation. -/
instance : Add CallCounts where
  add c d :=
    ⟨c.resolveZone + d.resolveZone, c.list + d.list, c.create + d.create, c.update + d.update⟩

theorem ext_of {c d : CallCounts} (h : ∀ op, c.of op = d.of op) : c = d := by
  obtain ⟨_, _, _, _⟩ := c
  obtain ⟨_, _, _, _⟩ := d
  exact CallCounts.mk.injEq .. ▸ ⟨h .resolveZone, h .fetch, h .create, h .update⟩

@[simp] theorem of_tally (ops : List Operation) (op : Operation) :
    (tally ops).of op = ops.count op := by
  cases op with
  | _ => rfl

@[simp] theorem of_sum (c d : CallCounts) (op : Operation) : (c + d).of op = c.of op + d.of op := by
  cases op with
  | _ => rfl

@[simp] theorem of_zero (op : Operation) : (0 : CallCounts).of op = 0 := by
  cases op with
  | _ => rfl

/-- Counting one call is adding the call. -/
theorem add_eq_sum (c : CallCounts) (op : Operation) : c.add op = c + tally [op] :=
  ext_of fun _ => by simp [of_add, List.count_singleton]

theorem sum_assoc (b c d : CallCounts) : b + c + d = b + (c + d) :=
  ext_of fun op => by simp only [of_sum, Nat.add_assoc]

theorem sum_zero (c : CallCounts) : c + 0 = c :=
  ext_of fun op => by simp only [of_sum, of_zero, Nat.add_zero]

theorem zero_sum (c : CallCounts) : 0 + c = c :=
  ext_of fun op => by simp only [of_sum, of_zero, Nat.zero_add]

theorem writes_sum (c d : CallCounts) : (c + d).writes = c.writes + d.writes :=
  Nat.add_add_add_comm c.create d.create c.update d.update

/-- What a step called was a write exactly if one of its calls counts as one. -/
theorem writes_operations (x : Step) (result : Result) :
    (tally (x.operations result)).writes = if x.wrote result = true then 1 else 0 := by
  cases x with
  | call handle call =>
      cases call with
      | _ => rfl
  | bind handle zone =>
      simp only [Step.operations]
      split
      · rfl
      · rfl
  | update r name address ttl =>
      cases result with
      | outcome o =>
          cases o with
          | _ => rfl
      | failed e =>
          cases e with
          | operation op name source =>
              cases op with
              | _ => rfl
          | _ => rfl
      | _ => rfl
  | _ => rfl

end CallCounts

open CallCounts

/-- The counts after a dialogue, together. -/
theorem counts_eq_of_answers {zones : ZoneTable} {d : Dialogue} {s s' : Store}
    (h : Answers (provider zones) d s s') :
    s'.counts = s.counts + tally ((d.map Prod.fst).map Call.operation) := by
  refine ext_of fun op => ?_
  rw [counts_of_answers h, of_sum, of_tally]
  generalize d.map Prod.fst = calls
  rw [List.count_eq_countP, List.countP_map]
  exact congrArg (s.counts.of op + ·) (List.countP_congr fun call _ => by simp)

namespace Session

/-! ### One step -/

/-- The calls that a step makes, in order, as its provider notes them. -/
def calls (s : Session) : Step → List Call
  | .call handle call => ((s.providerOf handle).perform call ⟨s.store, [], []⟩).2.calls
  | .bind handle zone =>
      (Reconciler.bind (s.providerOf handle) zone Recorded.write ⟨s.store, [], []⟩).2.calls
  | .update reconciler name address ttl =>
      match s.reconcilers[reconciler]?, Address.parse? address with
      | some r, some a => (r.update name a ttl ⟨s.store, [], []⟩).2.calls
      | _, _ => []
  | _ => []

/-- The calls of a step are counted, and told by its result. -/
structure CountsCalls (s : Session) (x : Step) : Prop where
  counted : (s.step x).2.store.counts = s.store.counts + tally ((s.calls x).map Call.operation)
  told : (s.calls x).map Call.operation = x.operations (s.step x).1.result

/-- A step without calls counts none. -/
theorem CountsCalls.of_no_calls {s : Session} {x : Step} (hcalls : s.calls x = [])
    (hcounts : (s.step x).2.store.counts = s.store.counts)
    (hresult : x.operations (s.step x).1.result = []) : s.CountsCalls x := by
  refine ⟨?_, ?_⟩
  · rw [hcalls, hcounts]
    exact (sum_zero _).symm
  · rw [hcalls, hresult]
    rfl

theorem countsCalls_call (s : Session) (handle : Nat) (call : Call) :
    s.CountsCalls (.call handle call) := by
  have hcalls : s.calls (.call handle call) = [call] := by
    rw [calls, providerOf, Provider.perform_recorded]
    rfl
  refine ⟨?_, by rw [hcalls]; rfl⟩
  rw [(s.step_call handle call).2, hcalls]
  exact (counts_perform (s.zonesOf handle) call s.store).trans (add_eq_sum _ _)

theorem store_step_bind (s : Session) (handle : Nat) (zone : String) :
    (s.step (.bind handle zone)).2.store =
      (Reconciler.bind (s.providerOf handle) zone Recorded.write ⟨s.store, [], []⟩).2.state := by
  simp only [step, perform]
  split
  · rfl
  · rfl

theorem countsCalls_bind (s : Session) (handle : Nat) (zone : String) :
    s.CountsCalls (.bind handle zone) := by
  cases hf : DomainName.fault? zone with
  | some fault =>
      have hrun := Reconciler.bind_of_fault (provider (s.zonesOf handle)) hf s.store
      refine .of_no_calls ?_ ?_ ?_
      · rw [calls, providerOf, hrun]
      · rw [store_step_bind, providerOf, hrun]
      · simp [Step.operations, hf]
  | none =>
      obtain ⟨hcalls, hstate, -⟩ :=
        Reconciler.bind_of_no_fault (provider (s.zonesOf handle)) hf s.store
      have hone : s.calls (.bind handle zone) = [.resolveZone zone] := hcalls
      refine ⟨?_, by rw [hone]; simp [Step.operations, hf, Call.operation]⟩
      rw [store_step_bind, providerOf, hstate, hone]
      exact (counts_perform (s.zonesOf handle) (.resolveZone zone) s.store).trans (add_eq_sum _ _)

theorem countsCalls_update {s : Session} {r : Nat} {zones : ZoneTable} {zone : Zone} {text : String}
    {address : Address}
    (hr : s.reconcilers[r]? = some (Reconciler.observed (provider zones) zone))
    (ha : Address.parse? text = some address) (name : String) (ttl : Int32) :
    s.CountsCalls (.update r name text ttl) := by
  obtain ⟨d, result, store, -, hd, hanswers, hrun⟩ :=
    (provider zones).exists_episode zone ⟨name, address, ttl⟩ [] s.store
  have hcalls : s.calls (.update r name text ttl) = d.map Prod.fst := by
    simp only [calls, hr, ha, hrun [] [], List.nil_append]
  have hstep : (s.step (.update r name text ttl)).1.result = .ofUpdate result ∧
      (s.step (.update r name text ttl)).2.store = store := by
    cases result with
    | error e => simp [step, perform, hr, ha, hrun [] [], Result.ofUpdate]
    | ok o => simp [step, perform, hr, ha, hrun [] [], Result.ofUpdate]
  refine ⟨?_, ?_⟩
  · rw [hstep.2, hcalls]
    exact counts_eq_of_answers hanswers
  · rw [hstep.1, hcalls, hd.operations_eq, Step.operations_update]

/-- **The calls of a step are counted, and told by its result.** -/
theorem Sound.calls_step {s : Session} (hs : s.Sound) (x : Step) : s.CountsCalls x := by
  cases x with
  | call handle call => exact s.countsCalls_call handle call
  | bind handle zone => exact s.countsCalls_bind handle zone
  | update r name text ttl =>
      cases hr : s.reconcilers[r]? with
      | none =>
          refine .of_no_calls ?_ ?_ ?_
          · simp only [calls, hr]
          · simp only [step, perform, hr]
          · simp only [step, perform, hr, Step.operations]
      | some bound =>
          cases ha : Address.parse? text with
          | none =>
              refine .of_no_calls ?_ ?_ ?_
              · simp only [calls, hr, ha]
              · simp only [step, perform, hr, ha]
              · simp only [step, perform, hr, ha, Step.operations]
          | some address =>
              obtain ⟨zones, hz⟩ := hs bound (List.mem_of_getElem? hr)
              exact countsCalls_update (hr.trans (congrArg some hz)) ha name ttl
  | _ => exact .of_no_calls rfl rfl rfl

/-! ### Runs -/

/-- What the results of steps tell of their calls, added up. -/
def totalOf (past : List (Step × Result)) : CallCounts :=
  (past.map fun p => tally (p.1.operations p.2)).sum

theorem writes_totalOf (past : List (Step × Result)) :
    (totalOf past).writes = past.countP fun p => p.1.wrote p.2 := by
  induction past with
  | nil => rfl
  | cons p past ih =>
      rw [totalOf, List.map_cons, List.sum_cons, writes_sum, writes_operations, List.countP_cons,
        ← ih, Nat.add_comm]
      rfl

/-- **The counts that a run reports**: after each step, those before the run and what the results so
far tell. -/
theorem Sound.counts_run {s : Session} (hs : s.Sound) (xs : List (Option String × Step)) :
    (s.run xs).1.map Report.counts =
      (List.range xs.length).map fun i =>
        s.store.counts + totalOf ((s.history xs).take (i + 1)) := by
  induction xs generalizing s with
  | nil => rfl
  | cons zx xs ih =>
      obtain ⟨z, x⟩ := zx
      obtain ⟨watched, hw⟩ := s.watching_eq z
      have hsound : (s.watching z).Sound := hw ▸ hs
      have hstore : (s.watching z).store = s.store := by rw [hw]
      have hcalls := hsound.calls_step x
      have hcounts := hcalls.counted
      rw [hcalls.told, hstore] at hcounts
      have hrest := ih ((hsound.advance x).sound hsound)
      change ((s.watching z).step x).2.store.counts ::
        (((s.watching z).step x).2.run xs).1.map Report.counts = _
      rw [hrest, hcounts, List.length_cons, List.range_succ_eq_map, List.map_cons, List.map_map,
        history_cons]
      refine List.cons_eq_cons.2 ⟨?_, List.map_congr_left fun i _ => ?_⟩
      · rw [List.take_succ_cons, List.take_zero, totalOf, List.map_singleton, List.sum_cons,
          List.sum_nil, sum_zero]
      · exact sum_assoc _ _ _

end Session

open Session

/-- **The counts of a session are told by its results.**  In every session the calls of each step
are those that its result tells.  The counts that the session reports after a step are the sum of
these calls over all steps so far, and the writes among them are as many as the steps so far that
wrote: direct writes, and updates that say that something has changed, or that failed in replacing
or creating. -/
theorem counts_are_told_by_results (zones : List (String × String))
    (xs : List (Option String × Step)) :
    let start := Session.start zones
    let past := fun i => (start.history xs).take (i + 1)
    start.Along (fun s x => (s.calls x).map Call.operation = x.operations (s.step x).1.result) xs ∧
      (start.run xs).1.map Report.counts =
        (List.range xs.length).map (fun i =>
          ((past i).map fun p => tally (p.1.operations p.2)).sum) ∧
      (start.run xs).1.map (fun report => report.counts.writes) =
        (List.range xs.length).map fun i => (past i).countP fun p => p.1.wrote p.2 := by
  intro start past
  have hstart : start.Sound := Sound.start zones
  have hcounts : (start.run xs).1.map Report.counts =
      (List.range xs.length).map fun i => totalOf (past i) := by
    rw [hstart.counts_run xs]
    exact List.map_congr_left fun i _ => zero_sum _
  refine ⟨Sound.along (fun s x hs => (hs.calls_step x).told) hstart xs, hcounts, ?_⟩
  have hwrites := congrArg (List.map CallCounts.writes) hcounts
  rw [List.map_map, List.map_map] at hwrites
  exact hwrites.trans (List.map_congr_left fun i _ => writes_totalOf (past i))

end Memory

end ZoneKeeper
