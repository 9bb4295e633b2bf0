/-
**The course of an update.**

`ZoneKeeper.Reconciler.update` is written in the monad of its provider.  Over a provider whose
effects are a state — any state, and any answers — the same decision is a small relation: from a
state of the provider, an update makes a list of calls, comes to a result and leaves a state.  The
relation speaks about the provider's answers and about nothing of how the update is computed, so
that what follows about updates can be read off its seven rules.

Main definitions:

* `ZoneKeeper.Reconciler.observed` — the reconciler on a provider whose calls are noted;
* `ZoneKeeper.Course` — the courses that an update may take;
* `ZoneKeeper.Provider.firstOnly` — the provider that keeps all but the first record to itself.

Main results:

* `ZoneKeeper.Course.update_eq` — an update with a course takes it;
* `ZoneKeeper.exists_course` — from every state there is a course;
* `ZoneKeeper.update_takes_its_only_course` — **the decision procedure**: an update takes a course,
  there is no other, what it writes has a time to live of one second to `2 ^ 31 - 1`, and the
  records after the first have no part in it.
-/

import ZoneKeeper.Reconciler

set_option autoImplicit false

namespace ZoneKeeper

variable {σ : Type}

theorem RecordName.inZone_iff (zone name : String) :
    RecordName.inZone zone name = true ↔ zone.toList <:+ name.toList := by
  rw [RecordName.inZone, List.isSuffixOf_iff_suffix]

/-- An action that follows another starts where that one ends. -/
theorem StateM.bind_of_eq {α β : Type} {act : StateM σ α} {next : α → StateM σ β} {s s' : σ} {a : α}
    (h : act s = (a, s')) : (act >>= next) s = next a s' := by
  change next (act s).1 (act s).2 = _
  rw [h]

/-- The zone id and the record name that a call is about. -/
def Call.place? : Call → Option (String × String)
  | .resolveZone _ => none
  | .listRecords zoneId _ name => some (zoneId, name)
  | .createRecord zoneId payload => some (zoneId, payload.name)
  | .updateRecord zoneId _ payload => some (zoneId, payload.name)

/-! ### Updates over noted calls -/

/-- A noted round trip followed by another action: the action starts where the round trip ends. -/
theorem Recorded.noting_bind {α β : Type} (call : Call) (act : StateM σ α)
    (next : α → StateM (Recorded σ) β) (s : σ) (calls : List Call) (log : List Entry) :
    (Recorded.noting call act >>= next) ⟨s, calls, log⟩ =
      next (act s).1 ⟨(act s).2, calls ++ [call], log⟩ := rfl

/-- A call of a provider that notes its calls is the call, noted. -/
theorem Provider.perform_recorded (p : Provider (StateM σ)) (call : Call) (s : σ)
    (calls : List Call) (log : List Entry) :
    p.recorded.perform call ⟨s, calls, log⟩ =
      ((p.perform call s).1, ⟨(p.perform call s).2, calls ++ [call], log⟩) := by
  cases call with
  | resolveZone zone => rfl
  | listRecords zoneId type name => rfl
  | createRecord zoneId payload => rfl
  | updateRecord zoneId recordId payload => rfl

namespace Reconciler

/-- The reconciler of a zone on a provider whose calls are noted; its log is kept beside them. -/
def observed (p : Provider (StateM σ)) (zone : Zone) : Reconciler (StateM (Recorded σ)) :=
  ⟨p.recorded, zone, Recorded.write⟩

/-- What an update logs in a zone: one entry for an outcome, none for a failure. -/
def entriesOf (zone : String) : Except Error Outcome → List Entry
  | .error _ => []
  | .ok outcome => [outcomeEntry zone outcome]

variable (p : Provider (StateM σ)) (zone : Zone) (name : String) (address : Address)
  (ttl : UInt32) (s : σ) (calls : List Call) (log : List Entry)

@[simp] theorem observed_zone : (observed p zone).zone = zone := rfl

/-- Binding asks for the zone's id once, unless the zone's name is no domain name. -/
theorem bind_recorded (zoneName : String) :
    Reconciler.bind p.recorded zoneName Recorded.write ⟨s, calls, log⟩ =
      match DomainName.fault? zoneName with
      | some fault => (.error (.config fault.message), ⟨s, calls, log⟩)
      | none =>
          let call := Call.resolveZone zoneName
          match p.resolveZone zoneName s with
          | (.error e, s') => (.error (bindError zoneName e), ⟨s', calls ++ [call], log⟩)
          | (.ok id, s') =>
              (.ok (observed p ⟨id, zoneName⟩),
                ⟨s', calls ++ [call], log ++ [resolvedEntry p.name ⟨id, zoneName⟩]⟩) := by
  rw [Reconciler.bind]
  cases DomainName.fault? zoneName with
  | some fault => rfl
  | none =>
      refine (Recorded.noting_bind _ _ _ s calls log).trans ?_
      rcases p.resolveZone zoneName s with ⟨e | id, s'⟩
      · rfl
      · rfl

/-- A reconciler that binding yields is bound to the zone of the given name. -/
theorem eq_observed_of_bind {zoneName : String} {before after : Recorded σ}
    {r : Reconciler (StateM (Recorded σ))}
    (h : Reconciler.bind p.recorded zoneName Recorded.write before = (.ok r, after)) :
    ∃ id, r = observed p ⟨id, zoneName⟩ := by
  have hb := (bind_recorded p before.state before.calls before.log zoneName).symm.trans h
  cases hf : DomainName.fault? zoneName with
  | some fault =>
      simp only [hf] at hb
      cases hb
  | none =>
      rcases hl : p.resolveZone zoneName before.state with ⟨e | id, s'⟩
      · simp only [hf, hl] at hb
        cases hb
      · simp only [hf, hl] at hb
        cases hb
        exact ⟨id, rfl⟩

theorem observed_finish (outcome : Outcome) :
    (observed p zone).finish outcome ⟨s, calls, log⟩ =
      (.ok outcome, ⟨s, calls, log ++ [outcomeEntry zone.name outcome]⟩) := rfl

theorem observed_createRecord :
    (observed p zone).createRecord name address ttl ⟨s, calls, log⟩ =
      let call := Call.createRecord zone.id ⟨.a, name, address.text, ttl⟩
      match p.createRecord zone.id ⟨.a, name, address.text, ttl⟩ s with
      | (.error e, s') => (.error (e.during .create name), ⟨s', calls ++ [call], log⟩)
      | (.ok new, s') =>
          (observed p zone).finish (.created name new.id address ttl)
            ⟨s', calls ++ [call], log⟩ := by
  refine (Recorded.noting_bind _ _ _ s calls log).trans ?_
  rw [observed_zone]
  rcases p.createRecord zone.id ⟨.a, name, address.text, ttl⟩ s with ⟨e | new, s'⟩
  · rfl
  · rfl

theorem observed_settleRecord (existing : Record) :
    (observed p zone).settleRecord existing name address ttl ⟨s, calls, log⟩ =
      if existing.content = address.text then
        (observed p zone).finish (.unchanged name address) ⟨s, calls, log⟩
      else
        let call := Call.updateRecord zone.id existing.id ⟨.a, name, address.text, ttl⟩
        match p.updateRecord zone.id existing.id ⟨.a, name, address.text, ttl⟩ s with
        | (.error e, s') => (.error (e.during .update name), ⟨s', calls ++ [call], log⟩)
        | (.ok _, s') =>
            (observed p zone).finish (.updated name existing.id existing.content address ttl)
              ⟨s', calls ++ [call], log⟩ := by
  rw [settleRecord]
  by_cases hc : existing.content = address.text
  · rw [if_pos hc, if_pos hc]
  · rw [if_neg hc, if_neg hc]
    refine (Recorded.noting_bind _ _ _ s calls log).trans ?_
    rw [observed_zone]
    rcases p.updateRecord zone.id existing.id ⟨.a, name, address.text, ttl⟩ s with ⟨e | new, s'⟩
    · rfl
    · rfl

theorem observed_updateInZone :
    (observed p zone).updateInZone name address ttl ⟨s, calls, log⟩ =
      let call := Call.listRecords zone.id .a name
      match p.listRecords zone.id .a name s with
      | (.error e, s') => (.error (e.during .fetch name), ⟨s', calls ++ [call], log⟩)
      | (.ok [], s') =>
          (observed p zone).createRecord name address ttl ⟨s', calls ++ [call], log⟩
      | (.ok (first :: _), s') =>
          (observed p zone).settleRecord first name address ttl ⟨s', calls ++ [call], log⟩ := by
  refine (Recorded.noting_bind _ _ _ s calls log).trans ?_
  rw [observed_zone]
  rcases p.listRecords zone.id .a name s with ⟨e | _ | ⟨first, rest⟩, s'⟩
  · rfl
  · rfl
  · rfl

end Reconciler

/-! ### The courses -/

section

variable (p : Provider (StateM σ)) (zone : Zone) (name : String) (address : Address)
  (ttl : UInt32) (s : σ)

/-- The courses of bringing the record with the full name `name` to `address`, from the state `s`
of the provider: the calls in order, the result, and the state that is left. -/
inductive Course : List Call → Except Error Outcome → σ → Prop
  /-- The name does not end in the zone's name. -/
  | outsideZone : ¬ zone.name.toList <:+ name.toList →
      Course [] (.ok (.outsideZone name)) s
  /-- The lookup fails. -/
  | lookupFailed {e : Error} {s₁ : σ} : zone.name.toList <:+ name.toList →
      p.listRecords zone.id .a name s = (.error e, s₁) →
      Course [.listRecords zone.id .a name] (.error (e.during .fetch name)) s₁
  /-- The first record has the address. -/
  | unchanged {first : Record} {rest : List Record} {s₁ : σ} :
      zone.name.toList <:+ name.toList →
      p.listRecords zone.id .a name s = (.ok (first :: rest), s₁) →
      first.content = address.text →
      Course [.listRecords zone.id .a name] (.ok (.unchanged name address)) s₁
  /-- The first record has another content, and replacing it fails. -/
  | updateFailed {first : Record} {rest : List Record} {e : Error} {s₁ s₂ : σ} :
      zone.name.toList <:+ name.toList →
      p.listRecords zone.id .a name s = (.ok (first :: rest), s₁) →
      first.content ≠ address.text →
      p.updateRecord zone.id first.id ⟨.a, name, address.text, ttl⟩ s₁ = (.error e, s₂) →
      Course
        [.listRecords zone.id .a name,
          .updateRecord zone.id first.id ⟨.a, name, address.text, ttl⟩]
        (.error (e.during .update name)) s₂
  /-- The first record has another content and is replaced. -/
  | updated {first : Record} {rest : List Record} {new : Record} {s₁ s₂ : σ} :
      zone.name.toList <:+ name.toList →
      p.listRecords zone.id .a name s = (.ok (first :: rest), s₁) →
      first.content ≠ address.text →
      p.updateRecord zone.id first.id ⟨.a, name, address.text, ttl⟩ s₁ = (.ok new, s₂) →
      Course
        [.listRecords zone.id .a name,
          .updateRecord zone.id first.id ⟨.a, name, address.text, ttl⟩]
        (.ok (.updated name first.id first.content address ttl)) s₂
  /-- There is no record, and making one fails. -/
  | createFailed {e : Error} {s₁ s₂ : σ} : zone.name.toList <:+ name.toList →
      p.listRecords zone.id .a name s = (.ok [], s₁) →
      p.createRecord zone.id ⟨.a, name, address.text, ttl⟩ s₁ = (.error e, s₂) →
      Course
        [.listRecords zone.id .a name, .createRecord zone.id ⟨.a, name, address.text, ttl⟩]
        (.error (e.during .create name)) s₂
  /-- There is no record, and one is made. -/
  | created {new : Record} {s₁ s₂ : σ} : zone.name.toList <:+ name.toList →
      p.listRecords zone.id .a name s = (.ok [], s₁) →
      p.createRecord zone.id ⟨.a, name, address.text, ttl⟩ s₁ = (.ok new, s₂) →
      Course
        [.listRecords zone.id .a name, .createRecord zone.id ⟨.a, name, address.text, ttl⟩]
        (.ok (.created name new.id address ttl)) s₂

/-- From every state there is a course. -/
theorem exists_course : ∃ calls result s', Course p zone name address ttl s calls result s' := by
  by_cases hz : zone.name.toList <:+ name.toList
  · rcases hl : p.listRecords zone.id .a name s with ⟨e | _ | ⟨first, rest⟩, s₁⟩
    · exact ⟨_, _, _, .lookupFailed hz hl⟩
    · rcases hw : p.createRecord zone.id ⟨.a, name, address.text, ttl⟩ s₁ with ⟨e | new, s₂⟩
      · exact ⟨_, _, _, .createFailed hz hl hw⟩
      · exact ⟨_, _, _, .created hz hl hw⟩
    · by_cases hc : first.content = address.text
      · exact ⟨_, _, _, .unchanged hz hl hc⟩
      · rcases hw : p.updateRecord zone.id first.id ⟨.a, name, address.text, ttl⟩ s₁ with
          ⟨e | new, s₂⟩
        · exact ⟨_, _, _, .updateFailed hz hl hc hw⟩
        · exact ⟨_, _, _, .updated hz hl hc hw⟩
  · exact ⟨_, _, _, .outsideZone hz⟩

end

namespace Course

variable {p : Provider (StateM σ)} {zone : Zone} {name : String} {address : Address}
  {ttl : UInt32} {s s' : σ} {calls : List Call} {result : Except Error Outcome}

/-- Within the zone, the reconciler takes a course that there is. -/
theorem updateInZone_eq (h : Course p zone name address ttl s calls result s')
    (hz : zone.name.toList <:+ name.toList) (before : List Call) (log : List Entry) :
    (Reconciler.observed p zone).updateInZone name address ttl ⟨s, before, log⟩ =
      (result, ⟨s', before ++ calls, log ++ Reconciler.entriesOf zone.name result⟩) := by
  rw [Reconciler.observed_updateInZone]
  cases h with
  | outsideZone hz' => exact absurd hz hz'
  | lookupFailed _ hl => simp [hl, Reconciler.entriesOf]
  | unchanged _ hl hc =>
      simp [hl, hc, Reconciler.observed_settleRecord, Reconciler.observed_finish,
        Reconciler.entriesOf]
  | updateFailed _ hl hc hw =>
      simp [hl, hc, hw, Reconciler.observed_settleRecord, Reconciler.entriesOf]
  | updated _ hl hc hw =>
      simp [hl, hc, hw, Reconciler.observed_settleRecord, Reconciler.observed_finish,
        Reconciler.entriesOf]
  | createFailed _ hl hw => simp [hl, hw, Reconciler.observed_createRecord, Reconciler.entriesOf]
  | created _ hl hw =>
      simp [hl, hw, Reconciler.observed_createRecord, Reconciler.observed_finish,
        Reconciler.entriesOf]

/-- **An update takes a course that there is**, and logs its outcome. -/
theorem update_eq {requested : String} {ttl : Int32}
    (h : Course p zone (RecordName.complete requested) address (effectiveTtl ttl) s calls result s')
    (before : List Call) (log : List Entry) :
    (Reconciler.observed p zone).update requested address ttl ⟨s, before, log⟩ =
      (result, ⟨s', before ++ calls, log ++ Reconciler.entriesOf zone.name result⟩) := by
  rw [Reconciler.update, Reconciler.observed_zone]
  by_cases hz : zone.name.toList <:+ (RecordName.complete requested).toList
  · rw [if_pos ((RecordName.inZone_iff _ _).2 hz), h.updateInZone_eq hz]
  · rw [if_neg fun hi => hz ((RecordName.inZone_iff _ _).1 hi)]
    cases h with
    | outsideZone _ => rw [Reconciler.observed_finish, List.append_nil]; rfl
    | _ => contradiction

/-- The same over any reconciler whose log is part of the state of its provider: what is logged is
logged when the calls are made. -/
theorem update_eq_logged {r : Reconciler (StateM σ)} {requested : String} {ttl : Int32}
    (h : Course r.provider r.zone (RecordName.complete requested) address (effectiveTtl ttl) s calls
      result s') :
    r.update requested address ttl s =
      (result, (Reconciler.entriesOf r.zone.name result).foldl (fun s e => (r.log e s).2) s') := by
  rw [Reconciler.update]
  by_cases hz : r.zone.name.toList <:+ (RecordName.complete requested).toList
  · rw [if_pos ((RecordName.inZone_iff _ _).2 hz), Reconciler.updateInZone]
    cases h with
    | outsideZone hz' => exact absurd hz hz'
    | lookupFailed _ hl =>
        rw [StateM.bind_of_eq hl]
        rfl
    | unchanged _ hl hc =>
        rw [StateM.bind_of_eq hl]
        dsimp only
        rw [Reconciler.settleRecord, if_pos hc]
        rfl
    | updateFailed _ hl hc hw | updated _ hl hc hw =>
        rw [StateM.bind_of_eq hl]
        dsimp only
        rw [Reconciler.settleRecord, if_neg hc, StateM.bind_of_eq hw]
        rfl
    | createFailed _ hl hw | created _ hl hw =>
        rw [StateM.bind_of_eq hl]
        dsimp only
        rw [Reconciler.createRecord, StateM.bind_of_eq hw]
        rfl
  · rw [if_neg fun hi => hz ((RecordName.inZone_iff _ _).1 hi)]
    cases h with
    | outsideZone _ => rfl
    | _ => contradiction

/-- An update within the zone asks for the records of the name first. -/
theorem head?_calls (h : Course p zone name address ttl s calls result s')
    (hz : zone.name.toList <:+ name.toList) :
    calls.head? = some (.listRecords zone.id .a name) := by
  cases h with
  | outsideZone hz' => exact absurd hz hz'
  | _ => rfl

/-- An update outside the zone asks nothing and leaves the provider as it was. -/
theorem of_not_suffix (h : Course p zone name address ttl s calls result s')
    (hz : ¬ zone.name.toList <:+ name.toList) :
    calls = [] ∧ result = .ok (.outsideZone name) ∧ s' = s := by
  cases h with
  | outsideZone _ => exact ⟨rfl, rfl, rfl⟩
  | _ => contradiction

/-- All calls of an update are about its record, in its zone, and that name ends in the zone's. -/
theorem of_mem_calls (h : Course p zone name address ttl s calls result s') {call : Call}
    (hc : call ∈ calls) :
    call.place? = some (zone.id, name) ∧ zone.name.toList <:+ name.toList := by
  cases h with
  | outsideZone _ => simp at hc
  | lookupFailed hz _ | unchanged hz _ _ =>
      obtain rfl := List.mem_singleton.1 hc
      exact ⟨rfl, hz⟩
  | updateFailed hz _ _ _ | updated hz _ _ _ | createFailed hz _ _ | created hz _ _ =>
      refine ⟨?_, hz⟩
      rcases List.mem_cons.1 hc with rfl | hc
      · rfl
      · obtain rfl := List.mem_singleton.1 hc
        rfl

end Course

/-! ### Many updates -/

/-- What is asked of a reconciler. -/
structure UpdateRequest where
  name : String
  address : Address
  ttl : Int32
  deriving DecidableEq, Repr

/-- The updates for a list of requests, one after the other. -/
def Reconciler.updateAll {m : Type → Type} [Monad m] (r : Reconciler m) :
    List UpdateRequest → m (List (Except Error Outcome))
  | [] => return []
  | q :: qs => do
      let result ← r.update q.name q.address q.ttl
      let results ← r.updateAll qs
      return result :: results

/-- Every call of many updates is about the record of a request, in the reconciler's zone. -/
theorem mem_calls_updateAll (p : Provider (StateM σ)) (zone : Zone) (requests : List UpdateRequest)
    (s : σ) (before : List Call) (log : List Entry) (call : Call)
    (hc : call ∈ ((Reconciler.observed p zone).updateAll requests ⟨s, before, log⟩).2.calls) :
    call ∈ before ∨ ∃ q ∈ requests, call.place? = some (zone.id, RecordName.complete q.name) ∧
      zone.name.toList <:+ (RecordName.complete q.name).toList := by
  induction requests generalizing s before log with
  | nil => exact .inl hc
  | cons q qs ih =>
      obtain ⟨calls, result, s', h⟩ :=
        exists_course p zone (RecordName.complete q.name) q.address (effectiveTtl q.ttl) s
      have hrun := h.update_eq before log
      -- the rest starts from what the first update leaves
      change call ∈ ((Reconciler.observed p zone).updateAll qs
        ((Reconciler.observed p zone).update q.name q.address q.ttl
          ⟨s, before, log⟩).2).2.calls at hc
      rw [hrun] at hc
      rcases ih s' _ _ hc with hc | ⟨q', hq', hplace⟩
      · rcases List.mem_append.1 hc with hc | hc
        · exact .inl hc
        · exact .inr ⟨q, List.mem_cons_self, h.of_mem_calls hc⟩
      · exact .inr ⟨q', List.mem_cons_of_mem q hq', hplace⟩

/-! ### What is written -/

/-- Less than a second stands for a minute; any other time to live is written as it is. -/
theorem toNat_effectiveTtl (ttl : Int32) :
    (effectiveTtl ttl).toNat = if ttl.toInt < 1 then 60 else ttl.toInt.toNat := by
  have hlt : ttl < 1 ↔ ttl.toInt < 1 := Int32.lt_iff_toInt_lt
  by_cases h : ttl < 1
  · rw [effectiveTtl, if_pos h, if_pos (hlt.1 h)]
    rfl
  · have hpos : ¬ ttl.toInt < 1 := fun hi => h (hlt.2 hi)
    rw [effectiveTtl, if_neg h, if_neg hpos]
    exact Int32.toNat_toUInt32_of_le (Int32.le_iff_toInt_le.2 (by simp; omega))

theorem effectiveTtl_range (ttl : Int32) :
    1 ≤ (effectiveTtl ttl).toNat ∧ (effectiveTtl ttl).toNat ≤ 2147483647 := by
  have hmax := ttl.toInt_lt
  rw [toNat_effectiveTtl]
  split
  · omega
  · omega

/-! ### The records after the first -/

/-- The provider that answers a lookup with the first record only. -/
def Provider.firstOnly (p : Provider (StateM σ)) : Provider (StateM σ) :=
  { p with
    listRecords := fun zoneId type name s =>
      let answer := p.listRecords zoneId type name s
      (answer.1.map (List.take 1), answer.2) }

theorem Provider.firstOnly_listRecords {p : Provider (StateM σ)} {zoneId name : String}
    {s s' : σ} {answer : Except Error (List Record)}
    (h : p.listRecords zoneId .a name s = (answer, s')) :
    p.firstOnly.listRecords zoneId .a name s = (answer.map (List.take 1), s') := by
  simp only [Provider.firstOnly, h]

/-- A course does not depend on the records after the first. -/
theorem Course.firstOnly {p : Provider (StateM σ)} {zone : Zone} {name : String}
    {address : Address} {ttl : UInt32} {s s' : σ} {calls : List Call}
    {result : Except Error Outcome} (h : Course p zone name address ttl s calls result s') :
    Course p.firstOnly zone name address ttl s calls result s' := by
  cases h with
  | outsideZone hz => exact .outsideZone hz
  | lookupFailed hz hl => exact .lookupFailed hz (Provider.firstOnly_listRecords hl)
  | unchanged hz hl hc => exact .unchanged hz (Provider.firstOnly_listRecords hl) hc
  | updateFailed hz hl hc hw => exact .updateFailed hz (Provider.firstOnly_listRecords hl) hc hw
  | updated hz hl hc hw => exact .updated hz (Provider.firstOnly_listRecords hl) hc hw
  | createFailed hz hl hw => exact .createFailed hz (Provider.firstOnly_listRecords hl) hw
  | created hz hl hw => exact .created hz (Provider.firstOnly_listRecords hl) hw

/-! ### The decision procedure -/

/-- **The decision procedure.**  Over any provider and from any state of it, an update takes a
course of its full name and its effective time to live, and there is no other; the time to live
that is written is the requested one, or a minute for less than a second; and a provider that
keeps the records after the first to itself makes no difference. -/
theorem update_takes_its_only_course (p : Provider (StateM σ)) (zone : Zone) (name : String)
    (address : Address) (ttl : Int32) (s : σ) :
    let run := (Reconciler.observed p zone).update name address ttl ⟨s, [], []⟩
    (∀ calls result s',
        Course p zone (RecordName.complete name) address (effectiveTtl ttl) s calls result s' ↔
          calls = run.2.calls ∧ result = run.1 ∧ s' = run.2.state) ∧
      ((effectiveTtl ttl).toNat = if ttl.toInt < 1 then 60 else ttl.toInt.toNat) ∧
      1 ≤ (effectiveTtl ttl).toNat ∧ (effectiveTtl ttl).toNat ≤ 2147483647 ∧
      (Reconciler.observed p.firstOnly zone).update name address ttl ⟨s, [], []⟩ = run := by
  intro run
  obtain ⟨calls, result, s', h⟩ :=
    exists_course p zone (RecordName.complete name) address (effectiveTtl ttl) s
  have hrun : run = (result, ⟨s', [] ++ calls, [] ++ Reconciler.entriesOf zone.name result⟩) :=
    h.update_eq [] []
  refine ⟨?_, toNat_effectiveTtl ttl, (effectiveTtl_range ttl).1, (effectiveTtl_range ttl).2, ?_⟩
  · intro calls' result' s''
    constructor
    · intro h'
      rw [show run = _ from h'.update_eq [] []]
      exact ⟨rfl, rfl, rfl⟩
    · rintro ⟨rfl, rfl, rfl⟩
      rw [hrun]
      exact h
  · rw [h.firstOnly.update_eq [] [], hrun]

end ZoneKeeper
