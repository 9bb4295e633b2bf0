/-
**What an update leaves alone.**

An update takes the first record of its name and replaces it by its id, or puts a record at the end
of the zone.  Where no two records of a zone have one id, the record that is replaced is the one
that was taken, so that nothing else changes: no other zone, no record of another name, no later
record of the name, and of the first one neither its place nor its id.

A reconciler works in the zone whose id its handle knew when it was bound; what handles learn later
does not reach it.

Main definitions:

* `ZoneKeeper.Memory.Store.LeavesOthers` — the records of every other name are as they were;
* `ZoneKeeper.Memory.Store.IdLeadsTo` — the first record of an id has the name;
* `ZoneKeeper.Memory.Store.HasDistinctIds` — no two records of a zone have one id;
* `ZoneKeeper.Memory.Framed` — the records of a zone are as they were but for the first of a name.

Main results:

* `ZoneKeeper.Memory.replaceFirst_split` — what is replaced, and where;
* `ZoneKeeper.Memory.Effect.leavesOthers_iff` — when an update leaves other names alone;
* `ZoneKeeper.Memory.Effect.leavesOthers` — where ids are distinct, it does;
* `ZoneKeeper.Memory.Effect.framed` — **the frame of an update**, place by place;
* `ZoneKeeper.Memory.Session.reconcilers_run` — reconcilers stay what they are;
* `ZoneKeeper.Memory.update_stays_in_frame` — **an update stays in its zone and at its name**.
-/

import Mathlib.Data.List.Nodup
import ZoneKeeper.Proofs.Memory.Run
import ZoneKeeper.Proofs.Outcome

set_option autoImplicit false

namespace ZoneKeeper.Memory

/-! ### What is replaced -/

/-- **What is replaced, and where**: the first record of the id, in its place. -/
theorem replaceFirst_split {id : String} {new : Record} {rs rs' : List Record}
    (h : replaceFirst id new rs = some rs') :
    ∃ before old after, rs = before ++ old :: after ∧ rs' = before ++ new :: after ∧
      rs.find? (fun r => r.id = id) = some old := by
  induction rs generalizing rs' with
  | nil => cases h
  | cons r rs ih =>
      by_cases hr : r.id = id
      · rw [replaceFirst, if_pos hr] at h
        obtain rfl := Option.some.inj h
        exact ⟨[], r, rs, rfl, rfl, List.find?_cons_of_pos (decide_eq_true hr)⟩
      · rw [replaceFirst, if_neg hr] at h
        obtain ⟨tail, htail, rfl⟩ := Option.map_eq_some_iff.1 h
        obtain ⟨before, old, after, rfl, rfl, hfind⟩ := ih htail
        refine ⟨r :: before, old, after, rfl, rfl, ?_⟩
        rw [List.find?_cons_of_neg (by simpa using hr), hfind]

theorem filter_name_cons (r : Record) (rs : List Record) (name : String) :
    (r :: rs).filter (fun r => r.name == name) =
      if r.name = name then r :: rs.filter (fun r => r.name == name)
      else rs.filter fun r => r.name == name := by
  simp only [List.filter_cons, beq_iff_eq]

namespace Store

/-- The records of every other place are as they were: those of other zones, and those of other
names in the zone. -/
def LeavesOthers (zoneId name : String) (s s' : Store) : Prop :=
  ∀ z other, (z, other) ≠ (zoneId, name) → s'.named z other = s.named z other

/-- The first record of the id, if there is one, has the name. -/
def IdLeadsTo (s : Store) (zoneId name id : String) : Prop :=
  ∀ old ∈ (s.records zoneId).find? fun r => r.id = id, old.name = name

instance (s : Store) (zoneId name id : String) : Decidable (s.IdLeadsTo zoneId name id) :=
  inferInstanceAs (Decidable (∀ old ∈ (s.records zoneId).find? fun r => r.id = id, old.name = name))

theorem leavesOthers_of_records {s s' : Store} (h : s'.records = s.records) (zoneId name : String) :
    s.LeavesOthers zoneId name s' := by
  intro z other _
  rw [named, named, h]

/-- A record at the end of a zone leaves other names alone. -/
theorem leavesOthers_insert (s : Store) (zoneId : String) (r : Record) :
    s.LeavesOthers zoneId r.name (s.insert zoneId r) := by
  intro z other hother
  rw [named, insert, records_setRecords]
  by_cases hz : z = zoneId
  · have hname : r.name ≠ other := fun h => hother (by rw [hz, h])
    rw [if_pos hz, List.filter_append, filter_name_cons, if_neg hname, List.filter_nil,
      List.append_nil, hz, named]
  · rw [if_neg hz, named]

/-- Replacing a record by one of another name is seen from the name that it had. -/
theorem leavesOthers_replace_iff {s : Store} {zoneId : String} {id : String} {new : Record}
    {rs : List Record} (h : replaceFirst id new (s.records zoneId) = some rs) :
    s.LeavesOthers zoneId new.name (s.setRecords zoneId rs) ↔ s.IdLeadsTo zoneId new.name id := by
  obtain ⟨before, old, after, hbefore, hafter, hfind⟩ := replaceFirst_split h
  have hlead : s.IdLeadsTo zoneId new.name id ↔ old.name = new.name := by
    rw [IdLeadsTo, hfind]
    exact ⟨fun h => h old rfl, fun h o ho => Option.some.inj ho ▸ h⟩
  rw [hlead]
  constructor
  · -- under its own name the old record would be missing
    intro hleaves
    by_contra hne
    have hsame := hleaves zoneId old.name fun heq => hne (Prod.mk.inj heq).2
    rw [named, named, setRecords_records_self, hbefore, hafter, List.filter_append,
      List.filter_append, filter_name_cons, filter_name_cons, if_neg (Ne.symm hne),
      if_pos rfl] at hsame
    have hlength := congrArg List.length (List.append_cancel_left hsame)
    rw [List.length_cons] at hlength
    omega
  · intro hname z other hother
    rw [named, named, records_setRecords]
    by_cases hz : z = zoneId
    · have hnew : new.name ≠ other := fun h => hother (by rw [hz, h])
      rw [if_pos hz, hz, hbefore, hafter, List.filter_append, List.filter_append,
        filter_name_cons, filter_name_cons, if_neg hnew, if_neg (hname ▸ hnew)]
    · rw [if_neg hz]

end Store

/-- **When an update leaves other names alone**: unless it replaces a record, and the first record
of that id has another name. -/
theorem Effect.leavesOthers_iff {zone : Zone} {name : String} {address : Address} {ttl : UInt32}
    {s s' : Store} {result : Except Error Outcome} (h : Effect zone name address ttl s result s') :
    s.LeavesOthers zone.id name s' ↔
      ∀ name' id previous address' ttl', result = .ok (.updated name' id previous address' ttl') →
        s.IdLeadsTo zone.id name id := by
  cases h with
  | @updated first rest rs _ _ _ _ _ hrs =>
      have hiff := Store.leavesOthers_replace_iff (s := (s.count .fetch).count .update) hrs
      refine hiff.trans ⟨?_, fun h => h _ _ _ _ _ rfl⟩
      rintro h _ _ _ _ _ ⟨⟩
      exact h
  | created _ _ _ _ =>
      refine iff_of_true ?_ nofun
      exact (Store.leavesOthers_insert s zone.id
        ⟨recordId (s.issued + 1), .a, name, address.text, ttl⟩)
  | outsideZone _ | lookupFailed _ _ | unchanged _ _ _ _ | updateFailed _ _ _ _
  | createFailed _ _ _ =>
      exact iff_of_true (Store.leavesOthers_of_records rfl _ _) nofun

/-! ### Distinct ids -/

/-- No two records of a zone have one id. -/
def Store.HasDistinctIds (s : Store) : Prop :=
  ∀ zoneId, ((s.records zoneId).map Record.id).Nodup

theorem Store.name_of_named_eq_cons {s : Store} {zoneId name : String} {first : Record}
    {rest : List Record} (h : s.named zoneId name = first :: rest) : first.name = name := by
  have hmem : first ∈ s.named zoneId name := h ▸ List.mem_cons_self
  exact eq_of_beq (List.mem_filter.1 hmem).2

/-- Where ids are distinct, the first record of a name is replaced in its place. -/
theorem exists_set_of_replaceFirst {name : String} {new first : Record} {rs rest rs' : List Record}
    (hids : (rs.map Record.id).Nodup) (hnamed : rs.filter (fun r => r.name == name) = first :: rest)
    (h : replaceFirst first.id new rs = some rs') :
    ∃ i, rs' = rs.set i new ∧ rs[i]? = some first ∧
      ∀ j < i, ∀ r, rs[j]? = some r → r.name ≠ name := by
  obtain ⟨before, old, after, rfl, rfl, hfind⟩ := replaceFirst_split h
  have hmem : first ∈ before ++ old :: after :=
    List.mem_of_mem_filter (hnamed ▸ List.mem_cons_self : first ∈ List.filter _ _)
  have hid : old.id = first.id := by simpa using List.find?_some hfind
  obtain rfl : old = first :=
    List.inj_on_of_nodup_map hids (List.mem_of_find?_eq_some hfind) hmem hid
  refine ⟨before.length, by simp, by simp, fun j hj r hr hname => ?_⟩
  -- a record of the name before the first one would be the first one
  have hbefore : r ∈ before := by
    rw [List.getElem?_append_left hj] at hr
    exact List.mem_of_getElem? hr
  have hfirst : old ∈ before := by
    have hfound : r ∈ before.filter fun r => r.name == name :=
      List.mem_filter.2 ⟨hbefore, beq_iff_eq.2 hname⟩
    obtain ⟨x, xs, hx⟩ := List.exists_cons_of_ne_nil (List.ne_nil_of_mem hfound)
    rw [List.filter_append, hx] at hnamed
    obtain ⟨rfl, -⟩ := List.cons.inj hnamed
    exact List.mem_of_mem_filter (hx ▸ List.mem_cons_self : x ∈ before.filter _)
  rw [List.map_append, List.nodup_append] at hids
  exact hids.2.2 _ (List.mem_map_of_mem hfirst) _ (List.mem_map_of_mem List.mem_cons_self) rfl

/-- Where ids are distinct, an update leaves other names alone: the record that it replaces is the
only one with that id. -/
theorem Effect.leavesOthers {zone : Zone} {name : String} {address : Address} {ttl : UInt32}
    {s s' : Store} {result : Except Error Outcome} (h : Effect zone name address ttl s result s')
    (hids : s.HasDistinctIds) : s.LeavesOthers zone.id name s' := by
  rw [h.leavesOthers_iff]
  rintro _ _ _ _ _ rfl old hold
  cases h with
  | @updated first rest rs _ _ _ hnamed _ _ =>
      have hid : old.id = first.id := by simpa using List.find?_some hold
      obtain rfl : old = first := List.inj_on_of_nodup_map (hids zone.id)
        (List.mem_of_find?_eq_some hold) (Store.mem_of_named_eq_cons hnamed) hid
      exact Store.name_of_named_eq_cons hnamed

/-! ### The frame of an update -/

/-- The records of a zone are as they were but for the first record of a name, and for those that
were made. -/
structure Framed (name : String) (made rs rs' : List Record) : Prop where
  /-- A record of another name keeps its place and all that it holds. -/
  others : ∀ (i : Nat) (r : Record), rs[i]? = some r → r.name ≠ name → rs'[i]? = some r
  /-- So does a record of the name that is not the first. -/
  later : ∀ (i j : Nat) (first r : Record), i < j → rs[i]? = some first → first.name = name →
    rs[j]? = some r → rs'[j]? = some r
  /-- Whatever changes does so in content and time to live. -/
  fields : ∀ (i : Nat) (r : Record), rs[i]? = some r →
    ∃ content ttl, rs'[i]? = some { r with content := content, ttl := ttl }
  /-- What is added is what was made, at the end. -/
  added : rs'.drop rs.length = made

namespace Framed

theorem append (name : String) (made rs : List Record) : Framed name made rs (rs ++ made) := by
  have hkept : ∀ (i : Nat) (r : Record), rs[i]? = some r → (rs ++ made)[i]? = some r := by
    intro i r hr
    obtain ⟨hi, -⟩ := List.getElem?_eq_some_iff.1 hr
    rw [List.getElem?_append_left hi, hr]
  exact ⟨fun i r hr _ => hkept i r hr, fun _ j _ r _ _ _ hr => hkept j r hr,
    fun i r hr => ⟨r.content, r.ttl, hkept i r hr⟩, List.drop_left⟩

theorem refl (name : String) (rs : List Record) : Framed name [] rs rs := by
  have h := append name [] rs
  rwa [List.append_nil] at h

theorem set {name : String} {rs : List Record} {i : Nat} {old : Record} (hold : rs[i]? = some old)
    (hname : old.name = name) (hfirst : ∀ j < i, ∀ r, rs[j]? = some r → r.name ≠ name)
    (content : String) (ttl : UInt32) :
    Framed name [] rs (rs.set i { old with content := content, ttl := ttl }) := by
  have hkept : ∀ (j : Nat) (r : Record), i ≠ j → rs[j]? = some r →
      (rs.set i { old with content := content, ttl := ttl })[j]? = some r := by
    intro j r hj hr
    rw [List.getElem?_set_ne hj, hr]
  refine ⟨fun j r hr hother => hkept j r ?_ hr, fun j k first r hlt hj hnamed hr => hkept k r ?_ hr,
    fun j r hr => ?_, ?_⟩
  · rintro rfl
    exact hother (Option.some.inj (hold.symm.trans hr) ▸ hname)
  · rintro rfl
    exact hfirst j hlt first hj hnamed
  · by_cases hj : i = j
    · subst hj
      obtain ⟨hi, -⟩ := List.getElem?_eq_some_iff.1 hold
      obtain rfl := Option.some.inj (hold.symm.trans hr)
      exact ⟨content, ttl, List.getElem?_set_self hi⟩
    · exact ⟨r.content, r.ttl, hkept j r hj hr⟩
  · exact List.drop_eq_nil_of_le (Nat.le_of_eq List.length_set)

end Framed

/-- **The frame of an update**: other zones are as they were, and so is the zone but for the first
record of the name, and for one that is made. -/
theorem Effect.framed {zone : Zone} {name : String} {address : Address} {ttl : UInt32}
    {s s' : Store} {result : Except Error Outcome} (h : Effect zone name address ttl s result s')
    (hids : s.HasDistinctIds) :
    (∀ z, z ≠ zone.id → s'.records z = s.records z) ∧
      Framed name (recordsMade result) (s.records zone.id) (s'.records zone.id) := by
  cases h with
  | @updated first rest rs _ _ _ hnamed _ hrs =>
      obtain ⟨i, hset, hi, hfirst⟩ := exists_set_of_replaceFirst (hids zone.id) hnamed hrs
      have hname : first.name = name := Store.name_of_named_eq_cons hnamed
      have htype : first.type = .a := by
        cases first.type
        rfl
      have hnew : (⟨first.id, .a, name, address.text, ttl⟩ : Record) =
          { first with content := address.text, ttl := ttl } :=
        Record.mk.injEq .. ▸ ⟨rfl, htype.symm, hname.symm, rfl, rfl⟩
      refine ⟨fun z hz => ?_, ?_⟩
      · rw [Store.records_setRecords, if_neg hz]
        rfl
      · rw [Store.setRecords_records_self, hset, hnew]
        exact .set hi hname hfirst address.text ttl
  | created _ _ _ _ =>
      refine ⟨fun z hz => ?_, ?_⟩
      · change (Store.insert _ zone.id _).records z = _
        rw [Store.insert, Store.records_setRecords, if_neg hz]
        rfl
      · change Framed name _ _ ((Store.insert _ zone.id _).records zone.id)
        rw [Store.insert, Store.setRecords_records_self]
        exact .append name _ _
  | _ => exact ⟨fun _ _ => rfl, .refl name _⟩

/-! ### The zone of a reconciler -/

theorem Store.resolveZone_eq_ok {lookup : String → Option String} {zone id : String} {s s' : Store}
    (h : resolveZone lookup zone s = (.ok id, s')) : lookup zone = some id := by
  change (if s.failOn = some .resolveZone then _ else _) = _ at h
  split at h
  case isTrue => cases (Prod.mk.inj h).1
  case isFalse =>
    cases hl : lookup zone with
    | none =>
        simp only [hl] at h
        cases (Prod.mk.inj h).1
    | some id' =>
        simp only [hl] at h
        exact congrArg some (Except.ok.inj (Prod.mk.inj h).1)

namespace Session

/-- A reconciler that binding yields has the id that its handle knows for the zone's name. -/
theorem step_bind {s : Session} {handle : Nat} {zoneName inspected : String} {zone : Zone}
    (h : (s.step (.bind handle zoneName)).1.result = .bound zone inspected) :
    zone.name = zoneName ∧ (s.zonesOf handle).find? zoneName = some zone.id ∧
      (s.step (.bind handle zoneName)).2.reconcilers =
        s.reconcilers ++ [Reconciler.observed (provider (s.zonesOf handle)) zone] := by
  have hb := Reconciler.bind_recorded (provider (s.zonesOf handle)) s.store [] [] zoneName
  cases hf : DomainName.fault? zoneName with
  | some fault =>
      simp only [hf] at hb
      simp only [step, perform, providerOf, hb] at h
      cases h
  | none =>
      rcases hl : (provider (s.zonesOf handle)).resolveZone zoneName s.store with ⟨e | id, store⟩
      · simp only [hf, hl] at hb
        simp only [step, perform, providerOf, hb] at h
        cases h
      · simp only [hf, hl] at hb
        simp only [step, perform, providerOf, hb] at h ⊢
        obtain ⟨rfl, -⟩ := Result.bound.inj h
        exact ⟨rfl, Store.resolveZone_eq_ok hl, rfl⟩

/-- A step leaves the reconcilers that there are alone. -/
theorem reconcilers_step (s : Session) (x : Step) : s.reconcilers <+: (s.step x).2.reconcilers := by
  have hsame := List.prefix_refl s.reconcilers
  cases x with
  | bind handle zone =>
      simp only [step, perform]
      split
      · exact hsame
      · exact List.prefix_append _ _
  | call handle call =>
      simp only [step, perform]
      split
      · exact hsame
      · exact hsame
  | update r name text ttl =>
      simp only [step, perform]
      cases s.reconcilers[r]? with
      | none => exact hsame
      | some bound =>
          cases Address.parse? text with
          | none => exact hsame
          | some address =>
              dsimp only
              split
              · exact hsame
              · exact hsame
  | _ => exact hsame

/-- **Reconcilers stay what they are**, whatever is done later. -/
theorem reconcilers_run (s : Session) (xs : List (Option String × Step)) :
    s.reconcilers <+: (s.run xs).2.reconcilers := by
  have hstep : ∀ (past : List (Step × Result)) (t : Session) (x : Step), True →
      s.reconcilers <+: t.reconcilers → s.reconcilers <+: (t.step x).2.reconcilers :=
    fun _ t x _ h => h.trans (t.reconcilers_step x)
  exact run_induction (P := fun _ t => s.reconcilers <+: t.reconcilers) (fun _ _ _ h => h) hstep xs
    (fun _ _ => trivial) [] s (List.prefix_refl _)

/-- A step that updates a record through a reconciler leaves all zones but its own alone. -/
theorem step_update_other_zones {s : Session} {r : Nat} {zones : ZoneTable} {zone : Zone}
    (hr : s.reconcilers[r]? = some (Reconciler.observed (provider zones) zone))
    (hids : s.store.HasDistinctIds) (name text : String) (ttl : Int32) (z : String)
    (hz : z ≠ zone.id) :
    (s.step (.update r name text ttl)).2.store.records z = s.store.records z := by
  cases ha : Address.parse? text with
  | none => simp only [step, perform, hr, ha]
  | some address =>
      obtain ⟨result, store, he, -, hafter⟩ := step_update hr ha name ttl
      rw [hafter]
      exact (he.framed hids).1 z hz

end Session

/-! ### Both together -/

/-- **An update stays in its zone and at its name.**  From any store in which no two records of a
zone have one id, whatever is armed to fail, an update leaves all other zones as they were; in its
own zone all records of other names keep their places and all that they hold, of the records of the
name the first one at most changes, and only in content and time to live, and a record is added at
the end if the outcome says so, and none otherwise.  The zone is the one that the handle knew by the
name when the reconciler was bound, whatever is entered into the tables of handles later. -/
theorem update_stays_in_frame :
    (∀ (zones : ZoneTable) (zone : Zone) (name : String) (address : Address) (ttl : Int32)
      (s : Store), s.HasDistinctIds →
      let run := (Reconciler.observed (provider zones) zone).update name address ttl ⟨s, [], []⟩
      (∀ z, z ≠ zone.id → run.2.state.records z = s.records z) ∧
        Framed (RecordName.complete name) (recordsMade run.1) (s.records zone.id)
          (run.2.state.records zone.id)) ∧
    ∀ (s : Session) (handle : Nat) (zoneName inspected : String) (zone : Zone),
      (s.step (.bind handle zoneName)).1.result = .bound zone inspected →
      zone.name = zoneName ∧ (s.zonesOf handle).find? zoneName = some zone.id ∧
        ∀ xs : List (Option String × Step),
          let later := ((s.step (.bind handle zoneName)).2.run xs).2
          later.reconcilers[s.reconcilers.length]? =
              some (Reconciler.observed (provider (s.zonesOf handle)) zone) ∧
            (later.store.HasDistinctIds → ∀ name text ttl z, z ≠ zone.id →
              (later.step (.update s.reconcilers.length name text ttl)).2.store.records z =
                later.store.records z) := by
  refine ⟨fun zones zone name address ttl s hids => ?_,
    fun s handle zoneName inspected zone h => ?_⟩
  · obtain ⟨calls, result, s', h⟩ :=
      exists_course (provider zones) zone (RecordName.complete name) address (effectiveTtl ttl) s
    intro run
    rw [show run = _ from h.update_eq [] []]
    exact (effect_of_course _ _ _ _ _ h).framed hids
  · obtain ⟨hname, hid, hreconcilers⟩ := Session.step_bind h
    refine ⟨hname, hid, fun xs => ?_⟩
    intro later
    have hbound : later.reconcilers[s.reconcilers.length]? =
        some (Reconciler.observed (provider (s.zonesOf handle)) zone) := by
      obtain ⟨more, hmore⟩ := Session.reconcilers_run (s.step (.bind handle zoneName)).2 xs
      rw [← hmore, hreconcilers, List.append_assoc]
      simp
    exact ⟨hbound,
      fun hids name text ttl => Session.step_update_other_zones hbound hids name text ttl⟩

/-- Three records, two of one name: an update changes the first of the two.  The reconciler keeps
its zone although its handle gets another id for the zone's name in between. -/
theorem first_of_two_records_changes :
    let mail : Record := ⟨"rec-1", .a, "mail.example.com", "192.0.2.1", 60⟩
    let www : Record := ⟨"rec-2", .a, "www.example.com", "192.0.2.2", 60⟩
    let other : Record := ⟨"rec-3", .a, "www.example.com", "192.0.2.3", 60⟩
    let s : Store := ({} : Store).setRecords "zone-123" [mail, www, other]
    let run := (Reconciler.observed (provider []) ⟨"zone-123", "example.com"⟩).update
      "www.example.com" ⟨1, 2, 3, 4⟩ 300 ⟨s, [], []⟩
    let bound := ((Session.start [("example.com", "zone-123")]).step (.bind 0 "example.com")).2
    let later := (bound.run [(none, .withZone 0 "example.com" "zone-456")]).2
    s.HasDistinctIds ∧
      run.2.state.records "zone-123" =
        [mail, ⟨"rec-2", .a, "www.example.com", "1.2.3.4", 300⟩, other] ∧
      Framed "www.example.com" [] [mail, www, other] (run.2.state.records "zone-123") ∧
      (later.zonesOf 0).find? "example.com" = some "zone-456" ∧
      later.reconcilers[0]?.map Reconciler.zone = some ⟨"zone-123", "example.com"⟩ := by
  intro mail www other s run bound later
  have hids : s.HasDistinctIds := by
    intro zoneId
    rw [Store.records_setRecords]
    split
    · decide
    · exact List.nodup_nil
  obtain ⟨hstore, hsession⟩ := update_stays_in_frame
  obtain ⟨-, hframed⟩ := hstore [] ⟨"zone-123", "example.com"⟩ "www.example.com" ⟨1, 2, 3, 4⟩ 300 s
    hids
  obtain ⟨-, -, hlater⟩ := hsession (Session.start [("example.com", "zone-123")]) 0 "example.com" _
    ⟨"zone-123", "example.com"⟩ rfl
  have hkept := (hlater [(none, .withZone 0 "example.com" "zone-456")]).1
  have hname : RecordName.complete "www.example.com" = "www.example.com" := by decide +kernel
  have hmade : recordsMade run.1 = [] := by decide +kernel
  refine ⟨hids, by decide +kernel, ?_, by decide +kernel, ?_⟩
  · rw [hname, show recordsMade _ = [] from hmade] at hframed
    exact hframed
  · exact congrArg (Option.map Reconciler.zone) hkept

end ZoneKeeper.Memory
