/-
**The dialogue of an update.**

All that an update knows of its provider are the answers to its calls.  A dialogue is a list of
calls with their answers; an update leads one of a few dialogues, each of which decides its result,
and it does not matter which provider gives the answers.  So an update takes a course over a
provider exactly if it leads a dialogue and the provider gives the answers of that dialogue, and two
providers that give the same answers are told apart by nothing that an update does.

Main definitions:

* `ZoneKeeper.Answers` — a provider gives the answers of a dialogue;
* `ZoneKeeper.Leads` — the dialogues of an update, with their results;
* `ZoneKeeper.Provider.dialogue` — the dialogue that calls lead to;
* `ZoneKeeper.Provider.episodes` — the dialogues and results of many updates.

Main results:

* `ZoneKeeper.course_iff_leads` — **a course is a dialogue that the provider answers**;
* `ZoneKeeper.Leads.cut` — a call that fails ends the dialogue;
* `ZoneKeeper.Leads.countP_isWrite` — a dialogue with an outcome writes once if something has
  changed, and never if not;
* `ZoneKeeper.Provider.updateAll_eq_episodes` — many updates are their episodes.
-/

import ZoneKeeper.Proofs.Course

set_option autoImplicit false

namespace ZoneKeeper

variable {σ : Type}

/-- Calls with their answers, in order. -/
abbrev Dialogue := List (Call × Except Error Answer)

/-! ### Answers -/

/-- The provider gives the answers of the dialogue, from the first state to the second. -/
inductive Answers (p : Provider (StateM σ)) : Dialogue → σ → σ → Prop
  | nil {s : σ} : Answers p [] s s
  | cons {call : Call} {answer : Except Error Answer} {d : Dialogue} {s s₁ s' : σ} :
      p.perform call s = (answer, s₁) → Answers p d s₁ s' → Answers p ((call, answer) :: d) s s'

/-- The dialogue that calls made one after the other lead to. -/
def Provider.dialogue (p : Provider (StateM σ)) : List Call → σ → Dialogue
  | [], _ => []
  | call :: calls, s => (call, (p.perform call s).1) :: p.dialogue calls (p.perform call s).2

namespace Answers

variable {p : Provider (StateM σ)} {s s' : σ}

theorem dialogue_eq {d : Dialogue} (h : Answers p d s s') : p.dialogue (d.map Prod.fst) s = d := by
  induction h with
  | nil => rfl
  | cons hcall _ ih => rw [List.map_cons, Provider.dialogue, hcall, ih]

/-- The answers of two dialogues, one after the other. -/
theorem append_iff {d d' : Dialogue} :
    Answers p (d ++ d') s s' ↔ ∃ s₁, Answers p d s s₁ ∧ Answers p d' s₁ s' := by
  constructor
  · intro h
    induction d generalizing s with
    | nil => exact ⟨s, .nil, h⟩
    | cons x d ih =>
        cases h with
        | cons hcall hrest =>
            obtain ⟨s₁, hd, hd'⟩ := ih hrest
            exact ⟨s₁, .cons hcall hd, hd'⟩
  · rintro ⟨s₁, hd, hd'⟩
    induction hd with
    | nil => exact hd'
    | cons hcall _ ih => exact .cons hcall (ih hd')

end Answers

/-! ### What calls are answered -/

/-- An answer holds what the operation yields, and nothing else. -/
theorem answered_iff {α : Type} {form : α → Answer} (hform : Function.Injective form)
    {run : Except Error α × σ} {result : Except Error α} {s' : σ} :
    (run.1.map form, run.2) = (result.map form, s') ↔ run = (result, s') := by
  obtain ⟨yielded, after⟩ := run
  refine ⟨fun h => ?_, fun h => by cases h; rfl⟩
  obtain ⟨hanswer, rfl⟩ := Prod.mk.inj h
  cases yielded with
  | error e =>
      cases result with
      | error e' => cases hanswer; rfl
      | ok b => cases hanswer
  | ok a =>
      cases result with
      | error e' => cases hanswer
      | ok b => rw [hform (Except.ok.inj hanswer)]

namespace Provider

variable {p : Provider (StateM σ)} {s s' : σ} {zoneId : String}

theorem perform_listRecords_iff {type : RecordType} {name : String}
    {result : Except Error (List Record)} :
    p.perform (.listRecords zoneId type name) s = (result.map .records, s') ↔
      p.listRecords zoneId type name s = (result, s') :=
  answered_iff fun _ _ => Answer.records.inj

theorem perform_createRecord_iff {payload : Payload} {result : Except Error Record} :
    p.perform (.createRecord zoneId payload) s = (result.map .record, s') ↔
      p.createRecord zoneId payload s = (result, s') :=
  answered_iff fun _ _ => Answer.record.inj

theorem perform_updateRecord_iff {recordId : String} {payload : Payload}
    {result : Except Error Record} :
    p.perform (.updateRecord zoneId recordId payload) s = (result.map .record, s') ↔
      p.updateRecord zoneId recordId payload s = (result, s') :=
  answered_iff fun _ _ => Answer.record.inj

end Provider

/-! ### The dialogues of an update -/

section

variable (zone : Zone) (name : String) (address : Address) (ttl : UInt32)

/-- The dialogues of bringing the record with the full name `name` to `address`, each with the
result that it decides. -/
inductive Leads : Dialogue → Except Error Outcome → Prop
  | outsideZone : ¬ zone.name.toList <:+ name.toList → Leads [] (.ok (.outsideZone name))
  | lookupFailed {e : Error} : zone.name.toList <:+ name.toList →
      Leads [(.listRecords zone.id .a name, .error e)] (.error (e.during .fetch name))
  | unchanged {first : Record} {rest : List Record} : zone.name.toList <:+ name.toList →
      first.content = address.text →
      Leads [(.listRecords zone.id .a name, .ok (.records (first :: rest)))]
        (.ok (.unchanged name address))
  | updateFailed {first : Record} {rest : List Record} {e : Error} :
      zone.name.toList <:+ name.toList → first.content ≠ address.text →
      Leads
        [(.listRecords zone.id .a name, .ok (.records (first :: rest))),
          (.updateRecord zone.id first.id ⟨.a, name, address.text, ttl⟩, .error e)]
        (.error (e.during .update name))
  | updated {first new : Record} {rest : List Record} : zone.name.toList <:+ name.toList →
      first.content ≠ address.text →
      Leads
        [(.listRecords zone.id .a name, .ok (.records (first :: rest))),
          (.updateRecord zone.id first.id ⟨.a, name, address.text, ttl⟩, .ok (.record new))]
        (.ok (.updated name first.id first.content address ttl))
  | createFailed {e : Error} : zone.name.toList <:+ name.toList →
      Leads
        [(.listRecords zone.id .a name, .ok (.records [])),
          (.createRecord zone.id ⟨.a, name, address.text, ttl⟩, .error e)]
        (.error (e.during .create name))
  | created {new : Record} : zone.name.toList <:+ name.toList →
      Leads
        [(.listRecords zone.id .a name, .ok (.records [])),
          (.createRecord zone.id ⟨.a, name, address.text, ttl⟩, .ok (.record new))]
        (.ok (.created name new.id address ttl))

end

section

variable {zone : Zone} {name : String} {address : Address} {ttl : UInt32}

/-- What the provider answers on a course makes a dialogue. -/
theorem Course.exists_leads {p : Provider (StateM σ)} {s s' : σ} {calls : List Call}
    {result : Except Error Outcome} (h : Course p zone name address ttl s calls result s') :
    ∃ d, Leads zone name address ttl d result ∧ Answers p d s s' ∧ calls = d.map Prod.fst := by
  cases h with
  | outsideZone hz => exact ⟨_, .outsideZone hz, .nil, rfl⟩
  | lookupFailed hz hl =>
      exact ⟨_, .lookupFailed hz, .cons (Provider.perform_listRecords_iff.2 hl) .nil, rfl⟩
  | unchanged hz hl hc =>
      exact ⟨_, .unchanged hz hc, .cons (Provider.perform_listRecords_iff.2 hl) .nil, rfl⟩
  | updateFailed hz hl hc hw =>
      exact ⟨_, .updateFailed hz hc, .cons (Provider.perform_listRecords_iff.2 hl)
        (.cons (Provider.perform_updateRecord_iff.2 hw) .nil), rfl⟩
  | updated hz hl hc hw =>
      exact ⟨_, .updated hz hc, .cons (Provider.perform_listRecords_iff.2 hl)
        (.cons (Provider.perform_updateRecord_iff.2 hw) .nil), rfl⟩
  | createFailed hz hl hw =>
      exact ⟨_, .createFailed hz, .cons (Provider.perform_listRecords_iff.2 hl)
        (.cons (Provider.perform_createRecord_iff.2 hw) .nil), rfl⟩
  | created hz hl hw =>
      exact ⟨_, .created hz, .cons (Provider.perform_listRecords_iff.2 hl)
        (.cons (Provider.perform_createRecord_iff.2 hw) .nil), rfl⟩

namespace Leads

variable {d : Dialogue} {result : Except Error Outcome}

/-- Where a provider gives the answers of a dialogue, there is the course. -/
theorem course (h : Leads zone name address ttl d result) {p : Provider (StateM σ)} {s s' : σ}
    (ha : Answers p d s s') : Course p zone name address ttl s (d.map Prod.fst) result s' := by
  cases h with
  | outsideZone hz =>
      cases ha
      exact .outsideZone hz
  | lookupFailed hz =>
      obtain - | ⟨hl, - | -⟩ := ha
      exact .lookupFailed hz (Provider.perform_listRecords_iff.1 hl)
  | unchanged hz hc =>
      obtain - | ⟨hl, - | -⟩ := ha
      exact .unchanged hz (Provider.perform_listRecords_iff.1 hl) hc
  | updateFailed hz hc =>
      obtain - | ⟨hl, - | ⟨hw, - | -⟩⟩ := ha
      exact .updateFailed hz (Provider.perform_listRecords_iff.1 hl) hc
        (Provider.perform_updateRecord_iff.1 hw)
  | updated hz hc =>
      obtain - | ⟨hl, - | ⟨hw, - | -⟩⟩ := ha
      exact .updated hz (Provider.perform_listRecords_iff.1 hl) hc
        (Provider.perform_updateRecord_iff.1 hw)
  | createFailed hz =>
      obtain - | ⟨hl, - | ⟨hw, - | -⟩⟩ := ha
      exact .createFailed hz (Provider.perform_listRecords_iff.1 hl)
        (Provider.perform_createRecord_iff.1 hw)
  | created hz =>
      obtain - | ⟨hl, - | ⟨hw, - | -⟩⟩ := ha
      exact .created hz (Provider.perform_listRecords_iff.1 hl)
        (Provider.perform_createRecord_iff.1 hw)

/-- An outcome needs answers only. -/
theorem answered {o : Outcome} (h : Leads zone name address ttl d (.ok o)) :
    ∀ x ∈ d, ∃ a, x.2 = .ok a := by
  cases h with
  | outsideZone _ => exact List.forall_mem_nil _
  | unchanged _ _ => exact List.forall_mem_singleton.2 ⟨_, rfl⟩
  | updated _ _ | created _ =>
      exact List.forall_mem_cons.2 ⟨⟨_, rfl⟩, List.forall_mem_singleton.2 ⟨_, rfl⟩⟩

/-- **A dialogue with an outcome writes once if something has changed, and never if not.** -/
theorem countP_isWrite {o : Outcome} (h : Leads zone name address ttl d (.ok o)) :
    (d.map Prod.fst).countP Call.isWrite = if o.changed = true then 1 else 0 := by
  cases h with
  | outsideZone _ | unchanged _ _ | updated _ _ | created _ => rfl

/-- **A call that fails ends the dialogue**, however it would have gone on. -/
theorem cut {before after : Dialogue} {call : Call} {answer : Except Error Answer}
    (h : Leads zone name address ttl (before ++ (call, answer) :: after) result) (e : Error) :
    Leads zone name address ttl (before ++ [(call, .error e)])
      (.error (e.during call.operation name)) := by
  generalize hd : before ++ (call, answer) :: after = d at h
  rcases before with _ | ⟨x, _ | ⟨y, before⟩⟩
  · -- the first call is the lookup
    cases h with
    | outsideZone _ => cases hd
    | lookupFailed hz | unchanged hz _ | updateFailed hz _ | updated hz _ | createFailed hz
    | created hz =>
        cases hd
        exact .lookupFailed hz
  · -- the second call, if there is one, is the write
    cases h with
    | outsideZone _ | lookupFailed _ | unchanged _ _ => cases hd
    | updateFailed hz hc | updated hz hc =>
        cases hd
        exact .updateFailed hz hc
    | createFailed hz | created hz =>
        cases hd
        exact .createFailed hz
  · cases h with
    | _ => simp at hd

end Leads

/-- **A course is a dialogue that the provider answers.** -/
theorem course_iff_leads {p : Provider (StateM σ)} {s s' : σ} {calls : List Call}
    {result : Except Error Outcome} :
    Course p zone name address ttl s calls result s' ↔
      ∃ d, Leads zone name address ttl d result ∧ Answers p d s s' ∧ calls = d.map Prod.fst := by
  refine ⟨Course.exists_leads, ?_⟩
  rintro ⟨d, hd, ha, rfl⟩
  exact hd.course ha

end

/-! ### Episodes -/

/-- What was said for an update, and what it came to. -/
structure Episode where
  dialogue : Dialogue
  result : Except Error Outcome

/-- The calls of an episode. -/
def Episode.calls (e : Episode) : List Call :=
  e.dialogue.map Prod.fst

namespace Provider

variable (p : Provider (StateM σ)) (zone : Zone)

/-- The episodes of the updates for a list of requests, made one after the other. -/
def episodes : List UpdateRequest → σ → List Episode
  | [], _ => []
  | q :: qs, s =>
      let run := (Reconciler.observed p zone).update q.name q.address q.ttl ⟨s, [], []⟩
      ⟨p.dialogue run.2.calls s, run.1⟩ :: episodes qs run.2.state

/-- The first episode of many, and the state that the others start from. -/
theorem exists_episode (q : UpdateRequest) (qs : List UpdateRequest) (s : σ) :
    ∃ d result s',
      p.episodes zone (q :: qs) s = ⟨d, result⟩ :: p.episodes zone qs s' ∧
      Leads zone (RecordName.complete q.name) q.address (effectiveTtl q.ttl) d result ∧
      Answers p d s s' ∧
      ∀ before log, (Reconciler.observed p zone).update q.name q.address q.ttl ⟨s, before, log⟩ =
        (result, ⟨s', before ++ d.map Prod.fst,
          log ++ Reconciler.entriesOf zone.name result⟩) := by
  obtain ⟨calls, result, s', h⟩ :=
    exists_course p zone (RecordName.complete q.name) q.address (effectiveTtl q.ttl) s
  obtain ⟨d, hd, ha, rfl⟩ := h.exists_leads
  refine ⟨d, result, s', ?_, hd, ha, h.update_eq⟩
  simp only [episodes, h.update_eq [] [], List.nil_append, ha.dialogue_eq]

/-- **Many updates are their episodes**: the results, the calls in order, and the answers. -/
theorem updateAll_eq_episodes (requests : List UpdateRequest) (s : σ) (before : List Call)
    (log : List Entry) :
    ∃ s' log', (Reconciler.observed p zone).updateAll requests ⟨s, before, log⟩ =
        ((p.episodes zone requests s).map Episode.result,
          ⟨s', before ++ (p.episodes zone requests s).flatMap Episode.calls, log'⟩) ∧
      Answers p ((p.episodes zone requests s).flatMap Episode.dialogue) s s' := by
  induction requests generalizing s before log with
  | nil => exact ⟨s, log, by rw [episodes, List.flatMap_nil, List.append_nil]; rfl, .nil⟩
  | cons q qs ih =>
      obtain ⟨d, result, s₁, hepisodes, -, ha, hrun⟩ := p.exists_episode zone q qs s
      obtain ⟨s', log', hrest, harest⟩ := ih s₁ (before ++ d.map Prod.fst)
        (log ++ Reconciler.entriesOf zone.name result)
      refine ⟨s', log', ?_, ?_⟩
      · rw [Reconciler.updateAll, StateM.bind_of_eq (hrun before log), StateM.bind_of_eq hrest,
          hepisodes, List.flatMap_cons, List.map_cons, ← List.append_assoc]
        rfl
      · rw [hepisodes, List.flatMap_cons]
        exact Answers.append_iff.2 ⟨s₁, ha, harest⟩

end Provider

end ZoneKeeper
