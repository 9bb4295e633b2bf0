/-
**What an update does to a store.**

The operations of a store count their call, fail if they are armed, and do their work otherwise.
Put into the seven courses of an update, this leaves seven effects on a store: the result of the
update and the store after it, said in terms of the store before it.

Main definitions:

* `ZoneKeeper.Memory.Store.count` — the store with one more call counted;
* `ZoneKeeper.Memory.Store.named` — the records of a name in a zone;
* `ZoneKeeper.Memory.Effect` — the effects that an update may have.

Main results:

* `ZoneKeeper.Memory.effect_of_course` — a course over a store has an effect;
* `ZoneKeeper.Memory.filter_of_replaceFirst` — **the record that replaces the first of a kind is the
  first of that kind**, also where ids are not unique.
-/

import ZoneKeeper.Memory.Session
import ZoneKeeper.Proofs.Course

set_option autoImplicit false

namespace ZoneKeeper.Memory

/-- No two numbers have one record id. -/
theorem eq_of_recordId_eq {m n : Nat} (h : recordId m = recordId n) : m = n := by
  refine Text.eq_of_natText_eq (String.toList_injective ?_)
  have hchars := congrArg String.toList h
  rw [recordId, recordId, String.toList_append, String.toList_append] at hchars
  exact List.append_cancel_left hchars

/-! ### Replacing a record -/

theorem exists_replaceFirst (new : Record) {old : Record} {rs : List Record} (h : old ∈ rs) :
    ∃ rs', replaceFirst old.id new rs = some rs' := by
  induction rs with
  | nil => simp at h
  | cons r rs ih =>
      by_cases hr : r.id = old.id
      · exact ⟨new :: rs, by rw [replaceFirst, if_pos hr]⟩
      · have hmem : old ∈ rs := (List.mem_cons.1 h).resolve_left fun he => hr (he ▸ rfl)
        obtain ⟨rs', hrs'⟩ := ih hmem
        exact ⟨r :: rs', by rw [replaceFirst, if_neg hr, hrs']; rfl⟩

/-- The record that is replaced is found by its id, which another record may have, too.  If it is
the first of its kind, the new record is: there is none of that kind before it, and an earlier
record of another kind that has the id gives its place to the new one. -/
theorem filter_of_replaceFirst (kind : Record → Bool) {new old : Record}
    {rs rs' rest : List Record} (hnew : kind new = true) (hold : rs.filter kind = old :: rest)
    (h : replaceFirst old.id new rs = some rs') : ∃ rest', rs'.filter kind = new :: rest' := by
  -- induction on the records; those in front of the first match stay in front of it
  induction rs generalizing rs' with
  | nil => simp at hold
  | cons r rs ih =>
      by_cases hid : r.id = old.id
      · -- replaced here, whatever its kind: the new record is the first of its kind
        rw [replaceFirst, if_pos hid] at h
        obtain rfl := Option.some.inj h
        exact ⟨_, List.filter_cons_of_pos hnew⟩
      · rw [replaceFirst, if_neg hid] at h
        obtain ⟨tail, htail, rfl⟩ := Option.map_eq_some_iff.1 h
        -- a record of the kind here would be the first one, and that has the id
        have hr : ¬ kind r = true := by
          intro hr
          rw [List.filter_cons_of_pos hr] at hold
          exact hid (congrArg Record.id (List.cons.inj hold).1)
        rw [List.filter_cons_of_neg hr] at hold
        obtain ⟨rest', hrest'⟩ := ih hold htail
        exact ⟨rest', by rw [List.filter_cons_of_neg hr, hrest']⟩

/-- Where ids are not shared, the record with the id is the one that is replaced. -/
theorem eq_map_of_replaceFirst {id : String} {new : Record} {rs rs' : List Record}
    (hids : (rs.map Record.id).Nodup) (h : replaceFirst id new rs = some rs') :
    rs' = rs.map fun r => if r.id = id then new else r := by
  induction rs generalizing rs' with
  | nil => cases h
  | cons r rs ih =>
      rw [List.map_cons, List.nodup_cons] at hids
      by_cases hr : r.id = id
      · -- the record has the id, so the records after it have other ids and stay as they are
        rw [replaceFirst, if_pos hr] at h
        obtain rfl := Option.some.inj h
        have hrest : rs.map (fun r => if r.id = id then new else r) = rs.map fun r => r := by
          refine List.map_congr_left fun r' hr' => if_neg fun hid => hids.1 ?_
          exact List.mem_map.2 ⟨r', hr', hid.trans hr.symm⟩
        rw [List.map_cons, if_pos hr, hrest, List.map_id']
      · rw [replaceFirst, if_neg hr] at h
        obtain ⟨tail, htail, rfl⟩ := Option.map_eq_some_iff.1 h
        rw [List.map_cons, if_neg hr, ← ih hids.2 htail]

/-- Replacing a record by one with its id keeps the ids in their places. -/
theorem map_id_of_replaceFirst {id : String} {new : Record} {rs rs' : List Record}
    (hid : new.id = id) (h : replaceFirst id new rs = some rs') :
    rs'.map Record.id = rs.map Record.id := by
  induction rs generalizing rs' with
  | nil => cases h
  | cons r rs ih =>
      by_cases hr : r.id = id
      · rw [replaceFirst, if_pos hr] at h
        obtain rfl := Option.some.inj h
        rw [List.map_cons, List.map_cons, hid, hr]
      · rw [replaceFirst, if_neg hr] at h
        obtain ⟨tail, htail, rfl⟩ := Option.map_eq_some_iff.1 h
        rw [List.map_cons, List.map_cons, ih htail]

/-! ### The operations -/

namespace Store

/-- The store with one more call of the operation counted. -/
def count (s : Store) (op : Operation) : Store :=
  { s with counts := s.counts.add op }

@[simp] theorem setRecords_records_self (s : Store) (zoneId : String) (rs : List Record) :
    (s.setRecords zoneId rs).records zoneId = rs := by
  rw [records_setRecords, if_pos rfl]

/-- The records of a name in a zone, oldest first. -/
def named (s : Store) (zoneId name : String) : List Record :=
  (s.records zoneId).filter fun r => r.name == name

/-- A record at the end of a zone is the last of its name. -/
theorem named_insert (s : Store) (zoneId : String) (r : Record) :
    (s.insert zoneId r).named zoneId r.name = s.named zoneId r.name ++ [r] := by
  have hr : [r].filter (fun r' => r'.name == r.name) = [r] :=
    List.filter_cons_of_pos (beq_self_eq_true r.name)
  rw [named, insert, setRecords_records_self, List.filter_append, hr]
  rfl

theorem mem_of_named_eq_cons {s : Store} {zoneId name : String} {first : Record}
    {rest : List Record} (h : s.named zoneId name = first :: rest) : first ∈ s.records zoneId := by
  have hmem : first ∈ s.named zoneId name := h ▸ List.mem_cons_self
  exact (List.mem_filter.1 hmem).1

theorem listRecords_eq (s : Store) (zoneId name : String) :
    listRecords zoneId .a name s =
      (if s.failOn = some .fetch then .error (injectedFailure .fetch)
        else .ok (s.named zoneId name), s.count .fetch) := by
  have hfilter : (s.records zoneId).filter (fun r => r.type == .a && r.name == name) =
      s.named zoneId name := by
    refine List.filter_congr fun r _ => ?_
    cases r.type
    rfl
  change (if s.failOn = some .fetch then _ else _) = _
  split
  · rfl
  · exact congrArg (fun rs => (Except.ok rs, s.count .fetch)) hfilter

theorem listRecords_eq_error {s s' : Store} {zoneId name : String} {e : Error}
    (h : listRecords zoneId .a name s = (.error e, s')) :
    s.failOn = some .fetch ∧ e = injectedFailure .fetch ∧ s' = s.count .fetch := by
  obtain ⟨hanswer, rfl⟩ := Prod.mk.inj ((listRecords_eq s zoneId name).symm.trans h)
  split at hanswer
  case isTrue hf => exact ⟨hf, (Except.error.inj hanswer).symm, rfl⟩
  case isFalse => cases hanswer

theorem listRecords_eq_ok {s s' : Store} {zoneId name : String} {rs : List Record}
    (h : listRecords zoneId .a name s = (.ok rs, s')) :
    s.failOn ≠ some .fetch ∧ s.named zoneId name = rs ∧ s' = s.count .fetch := by
  obtain ⟨hanswer, rfl⟩ := Prod.mk.inj ((listRecords_eq s zoneId name).symm.trans h)
  split at hanswer
  case isTrue => cases hanswer
  case isFalse hf => exact ⟨hf, Except.ok.inj hanswer, rfl⟩

theorem createRecord_eq_error {s s' : Store} {zoneId : String} {payload : Payload} {e : Error}
    (h : createRecord zoneId payload s = (.error e, s')) :
    s.failOn = some .create ∧ e = injectedFailure .create ∧ s' = s.count .create := by
  by_cases hf : s.failOn = some .create
  · have hrun : createRecord zoneId payload s =
        (.error (injectedFailure .create), s.count .create) := if_pos hf
    obtain ⟨he, rfl⟩ := Prod.mk.inj (hrun.symm.trans h)
    exact ⟨hf, (Except.error.inj he).symm, rfl⟩
  · have hrun : createRecord zoneId payload s = (.ok _, _) := if_neg hf
    cases (Prod.mk.inj (hrun.symm.trans h)).1

theorem createRecord_eq_ok {s s' : Store} {zoneId : String} {payload : Payload} {new : Record}
    (h : createRecord zoneId payload s = (.ok new, s')) :
    s.failOn ≠ some .create ∧ new = payload.toRecord (recordId (s.issued + 1)) ∧
      s' = { (s.count .create).insert zoneId new with issued := s.issued + 1 } := by
  by_cases hf : s.failOn = some .create
  · have hrun : createRecord zoneId payload s = (.error _, _) := if_pos hf
    cases (Prod.mk.inj (hrun.symm.trans h)).1
  · have hrun : createRecord zoneId payload s = (.ok _, _) := if_neg hf
    obtain ⟨hnew, rfl⟩ := Prod.mk.inj (hrun.symm.trans h)
    obtain rfl := Except.ok.inj hnew
    exact ⟨hf, rfl, rfl⟩

theorem updateRecord_of_armed {s : Store} (hf : s.failOn = some .update) {zoneId id : String}
    {payload : Payload} :
    updateRecord zoneId id payload s = (.error (injectedFailure .update), s.count .update) :=
  if_pos hf

theorem updateRecord_of_found {s : Store} (hf : s.failOn ≠ some .update) {zoneId id : String}
    {payload : Payload} {rs : List Record}
    (hr : replaceFirst id (payload.toRecord id) (s.records zoneId) = some rs) :
    updateRecord zoneId id payload s =
      (.ok (payload.toRecord id), (s.count .update).setRecords zoneId rs) := by
  refine (if_neg hf).trans ?_
  simp only [hr]
  rfl

theorem updateRecord_of_missing {s : Store} (hf : s.failOn ≠ some .update) {zoneId id : String}
    {payload : Payload} (hr : replaceFirst id (payload.toRecord id) (s.records zoneId) = none) :
    updateRecord zoneId id payload s =
      (.error (.notFound ("DNS record not found: " ++ id)), s.count .update) := by
  refine (if_neg hf).trans ?_
  simp only [hr]
  rfl

theorem updateRecord_eq_error {s s' : Store} {zoneId : String} {payload : Payload}
    {old : Record} {e : Error} (hold : old ∈ s.records zoneId)
    (h : updateRecord zoneId old.id payload s = (.error e, s')) :
    s.failOn = some .update ∧ e = injectedFailure .update ∧ s' = s.count .update := by
  by_cases hf : s.failOn = some .update
  · have hrun : updateRecord zoneId old.id payload s =
        (.error (injectedFailure .update), s.count .update) := if_pos hf
    obtain ⟨he, rfl⟩ := Prod.mk.inj (hrun.symm.trans h)
    exact ⟨hf, (Except.error.inj he).symm, rfl⟩
  · obtain ⟨rs, hrs⟩ := exists_replaceFirst (payload.toRecord old.id) hold
    have hrun := (updateRecord_of_found hf hrs).symm.trans h
    cases (Prod.mk.inj hrun).1

theorem updateRecord_eq_ok {s s' : Store} {zoneId id : String} {payload : Payload} {new : Record}
    (h : updateRecord zoneId id payload s = (.ok new, s')) :
    s.failOn ≠ some .update ∧
      ∃ rs, replaceFirst id (payload.toRecord id) (s.records zoneId) = some rs ∧
        s' = (s.count .update).setRecords zoneId rs := by
  by_cases hf : s.failOn = some .update
  · have hrun : updateRecord zoneId id payload s = (.error _, _) := if_pos hf
    cases (Prod.mk.inj (hrun.symm.trans h)).1
  · cases hr : replaceFirst id (payload.toRecord id) (s.records zoneId) with
    | none =>
        have hrun := (updateRecord_of_missing hf hr).symm.trans h
        cases (Prod.mk.inj hrun).1
    | some rs =>
        have hrun := (updateRecord_of_found hf hr).symm.trans h
        exact ⟨hf, rs, rfl, (Prod.mk.inj hrun).2.symm⟩

end Store

/-! ### The effects -/

section

variable (zone : Zone) (name : String) (address : Address) (ttl : UInt32) (s : Store)

/-- The effects of bringing the record with the full name `name` to `address`, on the store `s`:
the result, and the store after it. -/
inductive Effect : Except Error Outcome → Store → Prop
  | outsideZone : ¬ zone.name.toList <:+ name.toList → Effect (.ok (.outsideZone name)) s
  | lookupFailed : zone.name.toList <:+ name.toList → s.failOn = some .fetch →
      Effect (.error ((injectedFailure .fetch).during .fetch name)) (s.count .fetch)
  | unchanged {first : Record} {rest : List Record} : zone.name.toList <:+ name.toList →
      s.failOn ≠ some .fetch → s.named zone.id name = first :: rest →
      first.content = address.text →
      Effect (.ok (.unchanged name address)) (s.count .fetch)
  | updateFailed {first : Record} {rest : List Record} : zone.name.toList <:+ name.toList →
      s.failOn = some .update → s.named zone.id name = first :: rest →
      first.content ≠ address.text →
      Effect (.error ((injectedFailure .update).during .update name))
        ((s.count .fetch).count .update)
  | updated {first : Record} {rest rs : List Record} : zone.name.toList <:+ name.toList →
      s.failOn ≠ some .fetch → s.failOn ≠ some .update → s.named zone.id name = first :: rest →
      first.content ≠ address.text →
      replaceFirst first.id ⟨first.id, .a, name, address.text, ttl⟩ (s.records zone.id) = some rs →
      Effect (.ok (.updated name first.id first.content address ttl))
        (((s.count .fetch).count .update).setRecords zone.id rs)
  | createFailed : zone.name.toList <:+ name.toList →
      s.failOn = some .create → s.named zone.id name = [] →
      Effect (.error ((injectedFailure .create).during .create name))
        ((s.count .fetch).count .create)
  | created : zone.name.toList <:+ name.toList →
      s.failOn ≠ some .fetch → s.failOn ≠ some .create → s.named zone.id name = [] →
      Effect (.ok (.created name (recordId (s.issued + 1)) address ttl))
        { ((s.count .fetch).count .create).insert zone.id
            ⟨recordId (s.issued + 1), .a, name, address.text, ttl⟩ with
          issued := s.issued + 1 }

/-- **A course over a store has an effect.** -/
theorem effect_of_course {zones : ZoneTable} {calls : List Call} {result : Except Error Outcome}
    {s' : Store} (h : Course (provider zones) zone name address ttl s calls result s') :
    Effect zone name address ttl s result s' := by
  cases h with
  | outsideZone hz => exact .outsideZone hz
  | lookupFailed hz hl =>
      obtain ⟨hf, rfl, rfl⟩ := Store.listRecords_eq_error hl
      exact .lookupFailed hz hf
  | unchanged hz hl hc =>
      obtain ⟨hf, hnamed, rfl⟩ := Store.listRecords_eq_ok hl
      exact .unchanged hz hf hnamed hc
  | @updateFailed first _ _ _ _ hz hl hc hw =>
      obtain ⟨hf, hnamed, rfl⟩ := Store.listRecords_eq_ok hl
      have hfirst : first ∈ (s.count .fetch).records zone.id := Store.mem_of_named_eq_cons hnamed
      obtain ⟨hf', rfl, rfl⟩ := Store.updateRecord_eq_error hfirst hw
      exact .updateFailed hz hf' hnamed hc
  | updated hz hl hc hw =>
      obtain ⟨hf, hnamed, rfl⟩ := Store.listRecords_eq_ok hl
      obtain ⟨hf', rs, hrs, rfl⟩ := Store.updateRecord_eq_ok hw
      exact .updated hz hf hf' hnamed hc hrs
  | createFailed hz hl hw =>
      obtain ⟨hf, hnamed, rfl⟩ := Store.listRecords_eq_ok hl
      obtain ⟨hf', rfl, rfl⟩ := Store.createRecord_eq_error hw
      exact .createFailed hz hf' hnamed
  | created hz hl hw =>
      obtain ⟨hf, hnamed, rfl⟩ := Store.listRecords_eq_ok hl
      obtain ⟨hf', rfl, rfl⟩ := Store.createRecord_eq_ok hw
      exact .created hz hf hf' hnamed

end

end ZoneKeeper.Memory
