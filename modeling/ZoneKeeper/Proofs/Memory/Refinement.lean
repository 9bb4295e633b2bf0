/-
**The store follows the ledger.**

Along every run without direct writes, through any handles and reconcilers and with failures
armed at any point, the store holds what the ledger of the history says, and the next update comes
to what the ledger foretells.

The invariant is that record ids are handed out in the order of the ledger's places: the `n`-th
place to come has the `n`-th id for good.  This is what makes the record that is replaced, which
is found by its id, the record that was looked up, which is found by its name.

Main definitions:

* `ZoneKeeper.Memory.Follows` — the session follows the ledger.

Main results:

* `ZoneKeeper.Memory.Follows.result_eq` — an update comes to what is foretold;
* `ZoneKeeper.Memory.Follows.move` — moves keep the session in step with the ledger;
* `ZoneKeeper.Memory.session_refines_ledger` — **sessions refine their ledgers**.
-/

import ZoneKeeper.Proofs.Memory.Ledger

set_option autoImplicit false

namespace ZoneKeeper.Memory

/-- The session follows the ledger. -/
structure Follows (l : Ledger) (s : Session) : Prop where
  sound : s.Sound
  zones : s.reconcilers.map Reconciler.zone = l.zones
  armed : s.store.failOn = l.armed
  records : ∀ zoneId, s.store.records zoneId = recordsIn l.held zoneId
  issued : s.store.issued = l.created.length
  /-- Each place was created once. -/
  created : l.held.keys = l.created
  /-- The `n`-th place has the `n`-th id. -/
  ids : l.held.entries.map (fun e => e.2.id) =
    (List.range l.created.length).map fun n => recordId (n + 1)

theorem Follows.start (zones : List (String × String)) : Follows {} (Session.start zones) :=
  ⟨Session.Sound.start zones, rfl, rfl, fun _ => rfl, rfl, rfl, rfl⟩

namespace Follows

variable {l : Ledger} {s s' : Session} {zone : Zone} {name : String} {address : Address}
  {ttl : UInt32} {result : Except Error Outcome} {store : Store}

/-- No two places have one id. -/
theorem nodup_ids (h : Follows l s) : (l.held.entries.map fun e => e.2.id).Nodup := by
  rw [h.ids]
  exact List.nodup_range.map fun m n hmn => Nat.succ.inj (eq_of_recordId_eq hmn)

/-- A lookup finds the record that is held at the place, or none. -/
theorem named_eq (h : Follows l s) (zoneId name : String) :
    s.store.named zoneId name =
      (l.held.find? (zoneId, name)).toList.map fun held => held.toRecord (zoneId, name) := by
  rw [Store.named, h.records, filter_recordsIn]

theorem find?_of_named_nil (h : Follows l s) {zoneId name : String}
    (hnamed : s.store.named zoneId name = []) : l.held.find? (zoneId, name) = none := by
  rw [h.named_eq] at hnamed
  cases hfind : l.held.find? (zoneId, name) with
  | none => rfl
  | some held =>
      rw [hfind] at hnamed
      cases hnamed

theorem find?_of_named_cons (h : Follows l s) {zoneId name : String} {first : Record}
    {rest : List Record} (hnamed : s.store.named zoneId name = first :: rest) :
    ∃ held, l.held.find? (zoneId, name) = some held ∧ first = held.toRecord (zoneId, name) := by
  rw [h.named_eq] at hnamed
  cases hfind : l.held.find? (zoneId, name) with
  | none =>
      rw [hfind] at hnamed
      cases hnamed
  | some held =>
      rw [hfind] at hnamed
      exact ⟨held, rfl, (List.cons.inj hnamed).1.symm⟩

/-- **An update comes to what is foretold.** -/
theorem result_eq (h : Follows l s) (he : Effect zone name address ttl s.store result store) :
    result = l.foretell zone name address ttl := by
  rw [Ledger.foretell, ← h.armed]
  cases he with
  | outsideZone hz => rw [if_pos hz]
  | lookupFailed hz hf => rw [if_neg (not_not_intro hz), if_pos hf]
  | unchanged hz hf hnamed hc =>
      obtain ⟨held, hfind, rfl⟩ := h.find?_of_named_cons hnamed
      rw [if_neg (not_not_intro hz), if_neg hf, hfind]
      exact (if_pos hc).symm
  | updateFailed hz hf hnamed hc =>
      obtain ⟨held, hfind, rfl⟩ := h.find?_of_named_cons hnamed
      rw [if_neg (not_not_intro hz), hf, if_neg (by decide), hfind]
      exact (if_neg hc).symm
  | updated hz hf hf' hnamed hc _ =>
      obtain ⟨held, hfind, rfl⟩ := h.find?_of_named_cons hnamed
      rw [if_neg (not_not_intro hz), if_neg hf, hfind]
      exact ((if_neg hc).trans (if_neg hf')).symm
  | createFailed hz hf hnamed =>
      rw [if_neg (not_not_intro hz), hf, if_neg (by decide), h.find?_of_named_nil hnamed]
      rfl
  | created hz hf hf' hnamed =>
      rw [if_neg (not_not_intro hz), if_neg hf, h.find?_of_named_nil hnamed, h.issued]
      exact (if_neg hf').symm

/-- Replacing the record of a place, which is found by its id, is replacing what is held there. -/
theorem recordsIn_of_replaceFirst (h : Follows l s) {place : Place} {held : Holding}
    (hfind : l.held.find? place = some held) (new : Holding) {rs : List Record}
    (hrs : replaceFirst held.id (new.toRecord place) (s.store.records place.1) = some rs) :
    rs = recordsIn (l.held.put place new) place.1 := by
  rw [h.records] at hrs
  rw [eq_map_of_replaceFirst (nodup_id_recordsIn h.nodup_ids place.1) hrs,
    recordsIn_put_of_mem (OrderedMap.mem_keys_of_find? hfind), recordsIn, List.map_map]
  refine List.map_congr_left fun e he => ?_
  have hmem : e ∈ l.held.entries := (List.mem_filter.1 he).1
  -- one side asks for the id, the other for the place: they pick the same entry
  by_cases hp : e.1 = place
  · have heq : e = (place, held) := OrderedMap.eq_of_mem_entries hmem hfind hp
    rw [if_pos hp]
    exact if_pos (congrArg (fun e : Place × Holding => e.2.id) heq)
  · have hid : e.2.id ≠ held.id := by
      intro hid
      have hheld := OrderedMap.mem_entries_of_find? hfind
      exact hp (congrArg Prod.fst (List.inj_on_of_nodup_map h.nodup_ids hmem hheld hid))
    rw [if_neg hp]
    exact if_neg hid

/-- Moves that leave the records and the ids alone keep the session in step with the ledger. -/
theorem of_store (h : Follows l s) (hf : store.failOn = s.store.failOn)
    (hr : store.records = s.store.records) (hi : store.issued = s.store.issued) :
    Follows l { s with store := store } :=
  ⟨h.sound, h.zones, hf.trans h.armed, fun zoneId => (congrFun hr zoneId).trans (h.records zoneId),
    hi.trans h.issued, h.created, h.ids⟩

/-- A record that is replaced is entered in its place. -/
theorem enter_again (h : Follows l s) {place : Place} {held new : Holding} {rs : List Record}
    (hfind : l.held.find? place = some held) (hid : new.id = held.id)
    (hrs : replaceFirst held.id (new.toRecord place) (s.store.records place.1) = some rs)
    (hf : store.failOn = s.store.failOn) (hi : store.issued = s.store.issued)
    (hr : ∀ zoneId,
      store.records zoneId = if zoneId = place.1 then rs else s.store.records zoneId) :
    Follows { l with held := l.held.put place new } { s with store := store } where
  sound := h.sound
  zones := h.zones
  armed := hf.trans h.armed
  records zoneId := by
    rw [hr]
    by_cases hz : zoneId = place.1
    · rw [if_pos hz, hz]
      exact h.recordsIn_of_replaceFirst hfind new hrs
    · rw [if_neg hz, h.records, recordsIn_put_of_ne (Ne.symm hz)]
  issued := hi.trans h.issued
  created := (OrderedMap.keys_put_of_mem (OrderedMap.mem_keys_of_find? hfind) new).trans h.created
  ids := (map_id_put hfind hid).trans h.ids

/-- A new record is entered at the end, under the next id. -/
theorem enter_new (h : Follows l s) {place : Place} {new : Holding}
    (hfind : l.held.find? place = none) (hid : new.id = recordId (s.store.issued + 1))
    (hf : store.failOn = s.store.failOn) (hi : store.issued = s.store.issued + 1)
    (hr : ∀ zoneId, store.records zoneId = if zoneId = place.1 then
      s.store.records place.1 ++ [new.toRecord place] else s.store.records zoneId) :
    Follows { l with held := l.held.put place new, created := l.created ++ [place] }
      { s with store := store } where
  sound := h.sound
  zones := h.zones
  armed := hf.trans h.armed
  records zoneId := by
    rw [hr, recordsIn_put_of_not_mem (OrderedMap.not_mem_keys_of_find? hfind)]
    by_cases hz : zoneId = place.1
    · rw [if_pos hz, if_pos hz.symm, h.records, hz]
    · rw [if_neg hz, if_neg (Ne.symm hz), h.records, List.append_nil]
  issued := by rw [hi, h.issued, List.length_append, List.length_singleton]
  created := by
    rw [OrderedMap.keys_put_of_not_mem (OrderedMap.not_mem_keys_of_find? hfind), h.created]
  ids := by
    rw [OrderedMap.entries_put_of_not_mem (OrderedMap.not_mem_keys_of_find? hfind),
      List.map_append, h.ids, List.length_append, List.length_singleton, List.range_succ,
      List.map_append, List.map_singleton, List.map_singleton, hid, h.issued]

/-- An update keeps the session in step with the ledger that notes its result. -/
theorem effect (h : Follows l s) {r : Nat} {text : String} {ttl : Int32}
    (hz : l.zones[r]? = some zone) (ha : Address.parse? text = some address)
    (he : Effect zone (RecordName.complete name) address (effectiveTtl ttl) s.store result store) :
    Follows (l.note (.update r name text ttl) (.ofUpdate result)) { s with store := store } := by
  cases he with
  | lookupFailed _ _ => exact h.of_store rfl rfl rfl
  | updateFailed _ _ _ _ => exact h.of_store rfl rfl rfl
  | createFailed _ _ _ => exact h.of_store rfl rfl rfl
  | outsideZone _ =>
      rw [Result.ofUpdate, Ledger.note_outcome hz ha]
      exact h.of_store rfl rfl rfl
  | unchanged _ _ _ _ =>
      rw [Result.ofUpdate, Ledger.note_outcome hz ha]
      exact h.of_store rfl rfl rfl
  | updated _ _ _ hnamed _ hrs =>
      obtain ⟨held, hfind, rfl⟩ := h.find?_of_named_cons hnamed
      rw [Result.ofUpdate, Ledger.note_outcome hz ha]
      exact h.enter_again hfind rfl hrs rfl rfl fun _ => rfl
  | created _ _ _ hnamed =>
      rw [Result.ofUpdate, Ledger.note_outcome hz ha]
      exact h.enter_new (h.find?_of_named_nil hnamed) rfl rfl rfl fun _ => rfl

/-- **Moves keep the session in step with the ledger** that notes the step and its result. -/
theorem move (h : Follows l s) {x : Step} {result : Result} (hm : s.Move x result s') :
    Follows (l.note x result) s' := by
  have hsound := hm.sound h.sound
  cases hm with
  | update hr ha he =>
      refine h.effect ?_ ha he
      rw [← h.zones, List.getElem?_map, hr]
      rfl
  | noReconciler _ => exact h
  | noAddress _ => exact h
  | failOn => exact ⟨hsound, h.zones, rfl, h.records, h.issued, h.created, h.ids⟩
  | clearFailure => exact ⟨hsound, h.zones, rfl, h.records, h.issued, h.created, h.ids⟩
  | bound =>
      refine ⟨hsound, ?_, h.armed, h.records, h.issued, h.created, h.ids⟩
      rw [List.map_append, h.zones]
      rfl
  | bindFailed => exact ⟨hsound, h.zones, h.armed, h.records, h.issued, h.created, h.ids⟩
  | quiet hx =>
      rw [Ledger.note_quiet hx]
      exact ⟨hsound, h.zones, h.armed, h.records, h.issued, h.created, h.ids⟩

end Follows

/-- A session from the start follows the ledger of its history. -/
theorem follows_run (zones : List (String × String)) (xs : List (Option String × Step))
    (hxs : ∀ x ∈ xs, x.2.writesDirectly = false) :
    Follows (Ledger.ofHistory ((Session.start zones).history xs))
      ((Session.start zones).run xs).2 := by
  have hrun := Session.run_induction (P := fun past s => Follows (Ledger.ofHistory past) s)
    (fun past s watched h => ⟨h.sound, h.zones, h.armed, h.records, h.issued, h.created, h.ids⟩)
    (fun past s x hx h => by
      rw [Ledger.ofHistory_append]
      exact h.move (h.sound.move hx))
    xs hxs [] (Session.start zones) (Follows.start zones)
  rwa [List.nil_append] at hrun

/-- **Sessions refine their ledgers.**  After any run from the start without direct writes, each
zone holds the records of the ledger's places in the order in which these were created, with
distinct names and distinct ids; every place was created once; the next update through any
reconciler comes to what the ledger foretells; and a step changes records only with an outcome
that reports a record as created or updated. -/
theorem session_refines_ledger (zones : List (String × String))
    (xs : List (Option String × Step)) (hxs : ∀ x ∈ xs, x.2.writesDirectly = false) :
    let start := Session.start zones
    let s := (start.run xs).2
    let l := Ledger.ofHistory (start.history xs)
    (∀ zoneId, s.store.records zoneId = recordsIn l.held zoneId ∧
        ((s.store.records zoneId).map Record.name).Nodup ∧
        ((s.store.records zoneId).map Record.id).Nodup) ∧
      l.held.keys = l.created ∧
      s.reconcilers.map Reconciler.zone = l.zones ∧
      (∀ (r : Nat) (zone : Zone) (name text : String) (address : Address) (ttl : Int32),
        l.zones[r]? = some zone → Address.parse? text = some address →
          (s.step (.update r name text ttl)).1.result =
            .ofUpdate (l.foretell zone (RecordName.complete name) address (effectiveTtl ttl))) ∧
      ∀ x : Step, x.writesDirectly = false →
        (∀ o, (s.step x).1.result = .outcome o → o.changed = false) →
          (s.step x).2.store.records = s.store.records := by
  intro start s l
  have h : Follows l s := follows_run zones xs hxs
  refine ⟨fun zoneId => ⟨h.records zoneId, ?_, ?_⟩, h.created, h.zones, ?_, ?_⟩
  · rw [h.records]
    exact nodup_name_recordsIn l.held zoneId
  · rw [h.records]
    exact nodup_id_recordsIn h.nodup_ids zoneId
  · intro r zone name text address ttl hz ha
    rw [← h.zones, List.getElem?_map] at hz
    obtain ⟨bound, hr, rfl⟩ := Option.map_eq_some_iff.1 hz
    obtain ⟨known, hbound⟩ := h.sound bound (List.mem_of_getElem? hr)
    obtain ⟨result, store, he, hresult, -⟩ :=
      Session.step_update (hr.trans (congrArg some hbound)) ha name ttl
    rw [hresult, h.result_eq he]
  · intro x hx hresult
    exact (h.sound.move hx).records_eq hresult

/-- Two zones through two handles, with a failure in between: the ledger knows the two records, and
foretells that the next update replaces the second address of the first record. -/
theorem session_refines_ledger_two_zones :
    let xs : List (Option String × Step) :=
      [(none, .bind 0 "example.com"), (none, .clone 0),
        (none, .withZone 1 "example.org" "zone-456"), (none, .bind 1 "example.org"),
        (none, .update 0 "www.example.com" "192.0.2.1" 300), (none, .failOn .update),
        (none, .update 1 "mail.example.org" "192.0.2.2" 0),
        (none, .update 0 "www.example.com" "192.0.2.3" 300), (none, .clearFailure),
        (none, .update 0 "www.example.com" "192.0.2.3" 120)]
    let start := Session.start [("example.com", "zone-123")]
    let s := (start.run xs).2
    let l := Ledger.ofHistory (start.history xs)
    (∀ x ∈ xs, x.2.writesDirectly = false) ∧
      s.store.records "zone-123" = recordsIn l.held "zone-123" ∧
      recordsIn l.held "zone-123" = [⟨"rec-1", .a, "www.example.com", "192.0.2.3", 120⟩] ∧
      l.held.keys = l.created ∧
      l.created = [("zone-123", "www.example.com"), ("zone-456", "mail.example.org")] ∧
      (s.step (.update 0 "www.example.com" "192.0.2.9" 60)).1.result =
        .outcome (.updated "www.example.com" "rec-1" "192.0.2.3" ⟨192, 0, 2, 9⟩ 60) := by
  intro xs
  have hxs : ∀ x ∈ xs, x.2.writesDirectly = false := by decide
  obtain ⟨hrecords, hkeys, -, hnext, -⟩ :=
    session_refines_ledger [("example.com", "zone-123")] xs hxs
  have ha : Address.parse? "192.0.2.9" = some ⟨192, 0, 2, 9⟩ := by decide +kernel
  refine ⟨hxs, (hrecords "zone-123").1, by decide +kernel, hkeys, by decide +kernel, ?_⟩
  refine (hnext 0 ⟨"zone-123", "example.com"⟩ "www.example.com" "192.0.2.9" ⟨192, 0, 2, 9⟩ 60
    (by decide +kernel) ha).trans ?_
  decide +kernel

end ZoneKeeper.Memory
