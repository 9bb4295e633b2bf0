/-
**The call counts of the memory store.**

Every operation of the store counts its call before anything else happens, so the counts after a
dialogue are told from its calls alone, whatever they were answered.  A store that is not armed
answers every call of an update, and stays unarmed.

Main definition:

* `ZoneKeeper.Memory.CallCounts.of` — how often an operation was called.

Main results:

* `ZoneKeeper.Memory.counts_perform` — every call is counted under its operation;
* `ZoneKeeper.Memory.counts_of_answers` — **the counts after a dialogue**;
* `ZoneKeeper.Memory.Effect.exists_outcome` — an update of an unarmed store has an outcome;
* `ZoneKeeper.Memory.Effect.writes_eq` — an outcome counts a write exactly if it says so.
-/

import ZoneKeeper.Proofs.Dialogue
import ZoneKeeper.Proofs.Memory.Run

set_option autoImplicit false

namespace ZoneKeeper.Memory

/-! ### Calls -/

/-- How often the operation was called. -/
def CallCounts.of (c : CallCounts) : Operation → Nat
  | .resolveZone => c.resolveZone
  | .fetch => c.list
  | .create => c.create
  | .update => c.update

theorem CallCounts.of_add (c : CallCounts) (op op' : Operation) :
    (c.add op).of op' = c.of op' + if op = op' then 1 else 0 := by
  cases op <;> cases op' <;> rfl

/-- An attempt counts its call, whatever the work comes to. -/
theorem counts_attempt {α : Type} (op : Operation) {work : Store → Except Error α × Store}
    (hwork : ∀ s, (work s).2.counts = s.counts) (s : Store) :
    (Store.attempt op work s).2.counts = s.counts.add op := by
  change (if s.failOn = some op then _ else _ : Except Error α × Store).2.counts = _
  split
  · rfl
  · exact hwork _

/-- **Every call is counted under its operation**, whatever comes of it. -/
theorem counts_perform (zones : ZoneTable) (call : Call) (s : Store) :
    ((provider zones).perform call s).2.counts = s.counts.add call.operation := by
  cases call with
  | resolveZone zone =>
      change (Store.resolveZone zones.find? zone s).2.counts = _
      refine counts_attempt .resolveZone (fun s => ?_) s
      cases zones.find? zone with
      | none => rfl
      | some id => rfl
  | listRecords zoneId type name =>
      change (Store.listRecords zoneId type name s).2.counts = _
      exact counts_attempt .fetch (fun _ => rfl) s
  | createRecord zoneId payload =>
      change (Store.createRecord zoneId payload s).2.counts = _
      exact counts_attempt .create (fun _ => rfl) s
  | updateRecord zoneId id payload =>
      change (Store.updateRecord zoneId id payload s).2.counts = _
      refine counts_attempt .update (fun s => ?_) s
      cases replaceFirst id (payload.toRecord id) (s.records zoneId) with
      | none => rfl
      | some rs => rfl

/-- **The counts after a dialogue**: each operation has been called as often as the dialogue
says. -/
theorem counts_of_answers {zones : ZoneTable} {d : Dialogue} {s s' : Store}
    (h : Answers (provider zones) d s s') (op : Operation) :
    s'.counts.of op =
      s.counts.of op + (d.map Prod.fst).countP (fun call => call.operation = op) := by
  induction h with
  | nil => rfl
  | @cons call answer d s s₁ s' hcall _ ih =>
      have hcounts := counts_perform zones call s
      rw [hcall] at hcounts
      rw [ih, hcounts, CallCounts.of_add, List.map_cons, List.countP_cons]
      simp only [decide_eq_true_eq]
      omega

/-! ### Updates -/

section

variable {zone : Zone} {name : String} {address : Address} {ttl : UInt32} {s s' : Store}
  {result : Except Error Outcome}

/-- An update of an unarmed store has an outcome, and the store stays unarmed. -/
theorem Effect.exists_outcome (h : Effect zone name address ttl s result s')
    (hs : s.failOn = none) : (∃ o, result = .ok o) ∧ s'.failOn = none := by
  cases h with
  | lookupFailed _ hf | updateFailed _ hf _ _ | createFailed _ hf _ =>
      exact nomatch hs.symm.trans hf
  | outsideZone _ | unchanged _ _ _ _ | updated _ _ _ _ _ _ | created _ _ _ _ =>
      exact ⟨⟨_, rfl⟩, hs⟩

/-- An outcome counts a write exactly if it says that something has changed. -/
theorem Effect.writes_eq {o : Outcome} (h : Effect zone name address ttl s (.ok o) s') :
    s'.counts.writes = s.counts.writes + if o.changed = true then 1 else 0 := by
  cases h with
  | outsideZone _ | unchanged _ _ _ _ => rfl
  | created _ _ _ _ => exact Nat.add_right_comm s.counts.create 1 s.counts.update
  | updated _ _ _ _ _ _ => rfl

end

/-- Every update of an unarmed store, one after the other, has an outcome. -/
theorem exists_outcome_of_mem_episodes (zones : ZoneTable) (zone : Zone)
    {requests : List UpdateRequest} {s : Store} (hs : s.failOn = none) :
    ∀ e ∈ (provider zones).episodes zone requests s, ∃ o, e.result = .ok o := by
  induction requests generalizing s with
  | nil => exact List.forall_mem_nil _
  | cons q qs ih =>
      obtain ⟨d, result, s₁, hepisodes, hd, ha, -⟩ := (provider zones).exists_episode zone q qs s
      obtain ⟨hresult, hs₁⟩ := (effect_of_course _ _ _ _ _ (hd.course ha)).exists_outcome hs
      rw [hepisodes]
      exact List.forall_mem_cons.2 ⟨hresult, ih hs₁⟩

end ZoneKeeper.Memory
